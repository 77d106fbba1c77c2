import Chiptune.Proofs.Text.Utf8
import Chiptune.Song.Sink

/-!
# Songs in a sink of limited room

Writing a text piece by piece is writing it at once, however it is cut: as long
as the pieces fit they stand one behind the other, and the first piece that does
not fit fills the sink and is the last one. A sink that songs are written to one
after the other therefore holds the beginning of all their texts, and the call
that fails is that of the song in whose text the room ends. There is no other way
for a call to fail.
-/

namespace Chiptune

/-- The bytes of a song's source. -/
def Song.bytes (song : Song) : List UInt8 := song.source.toUTF8.data.toList

namespace Sink

theorem toList_loop_eq (bytes : ByteArray) (i : Nat) (reversed : List UInt8) :
    ByteArray.toList.loop bytes i reversed = reversed.reverse ++ bytes.data.toList.drop i := by
  fun_induction ByteArray.toList.loop bytes i reversed with
  | case1 i reversed less ih =>
      have there : i < bytes.data.toList.length := by simpa using less
      have byte : bytes.get! i = bytes.data.toList[i] := getElem!_pos bytes.data i there
      rw [ih, List.drop_eq_getElem_cons there, List.reverse_cons, List.append_assoc, byte]
      rfl
  | case2 i reversed le =>
      have behind : bytes.data.toList.length ≤ i := by simpa using le
      rw [List.drop_eq_nil_of_le behind, List.append_nil]

theorem toList_eq (bytes : ByteArray) : bytes.toList = bytes.data.toList :=
  toList_loop_eq bytes 0 []

theorem write_of_fits {room : Nat} (held : Array UInt8) {bytes : List UInt8}
    (fits : bytes.length ≤ room) : write ⟨some room, held⟩ bytes =
      (true, ⟨some (room - bytes.length), held ++ bytes⟩) := by
  simp only [write]
  rw [decide_eq_true fits, List.take_of_length_le fits]

theorem write_of_exceeds {room : Nat} (held : Array UInt8) {bytes : List UInt8}
    (exceeds : room < bytes.length) : write ⟨some room, held⟩ bytes =
      (false, ⟨some 0, held ++ bytes.take room⟩) := by
  simp only [write]
  rw [decide_eq_false (Nat.not_le_of_lt exceeds), Nat.sub_eq_zero_of_le (Nat.le_of_lt exceeds)]

theorem append_append (held : Array UInt8) (front back : List UInt8) :
    held ++ (front ++ back) = held ++ front ++ back := by
  simp [← Array.toList_inj]

/-- A write of two parts is a write of the first one and, if it fits, of the second. -/
theorem write_append (s : Sink) (front back : List UInt8) :
    s.write (front ++ back) =
      match s.write front with
      | (true, s) => s.write back
      | (false, s) => (false, s) := by
  obtain ⟨room, held⟩ := s
  cases room with
  | none =>
      simp only [write]
      rw [append_append]
  | some room =>
      have length : (front ++ back).length = front.length + back.length := List.length_append
      rcases Nat.lt_or_ge room front.length with exceeds | fits
      · rw [write_of_exceeds held exceeds, write_of_exceeds held (by omega),
          List.take_append_of_le_length (Nat.le_of_lt exceeds)]
      · rw [write_of_fits held fits]
        rcases Nat.lt_or_ge (room - front.length) back.length with exceeds | fits'
        · rw [write_of_exceeds held (by omega), List.take_append, List.take_of_length_le fits,
            append_append]
          exact (write_of_exceeds _ exceeds).symm
        · rw [write_of_fits held (by omega), append_append, length, ← Nat.sub_sub]
          exact (write_of_fits _ fits').symm

/-- Writing nothing always succeeds. -/
theorem write_nil (s : Sink) : s.write [] = (true, s) := by
  obtain ⟨room, held⟩ := s
  cases room <;> simp [write]

/-- Pieces written in turn are their text written at once. -/
theorem writeAll_eq_write (s : Sink) (texts : List String) :
    s.writeAll texts = s.write (String.join texts).toUTF8.data.toList := by
  induction texts generalizing s with
  | nil => exact (write_nil s).symm
  | cons text texts ih =>
      rw [Text.Utf8.toUTF8_join_cons, Array.toList_append, write_append, writeAll, toList_eq]
      generalize s.write text.toUTF8.data.toList = written
      obtain ⟨complete, after⟩ := written
      cases complete with
      | false => rfl
      | true => exact ih after

theorem writeSong_eq_write (s : Sink) (song : Song) : s.writeSong song = s.write song.bytes :=
  writeAll_eq_write s song.sourceLines

/-- The bytes of the sources of songs, one behind the other. -/
def bytesOf (songs : List Song) : List UInt8 := songs.flatMap Song.bytes

@[simp] theorem bytesOf_nil : bytesOf [] = [] := rfl

@[simp] theorem bytesOf_cons (song : Song) (songs : List Song) :
    bytesOf (song :: songs) = song.bytes ++ bytesOf songs := List.flatMap_cons

@[simp] theorem bytesOf_append (before after : List Song) :
    bytesOf (before ++ after) = bytesOf before ++ bytesOf after := List.flatMap_append

theorem writeSongs_eq_write (s : Sink) (songs : List Song) :
    s.writeSongs songs = s.write (bytesOf songs) := by
  induction songs generalizing s with
  | nil => exact (write_nil s).symm
  | cons song songs ih =>
      rw [bytesOf_cons, write_append, writeSongs, writeSong_eq_write]
      generalize s.write song.bytes = written
      obtain ⟨complete, after⟩ := written
      cases complete with
      | false => rfl
      | true => exact ih after

/-- Songs that fit are all in the sink. -/
theorem writeSongs_of_fits {songs : List Song} {limit : Nat}
    (fits : (bytesOf songs).length ≤ limit) : (empty (some limit)).writeSongs songs =
      (true, ⟨some (limit - (bytesOf songs).length), (bytesOf songs).toArray⟩) := by
  rw [writeSongs_eq_write, empty, write_of_fits _ fits]
  simp

/-- Of songs that do not fit the beginning is in the sink. -/
theorem writeSongs_of_exceeds {songs : List Song} {limit : Nat}
    (exceeds : limit < (bytesOf songs).length) : (empty (some limit)).writeSongs songs =
      (false, ⟨some 0, ((bytesOf songs).take limit).toArray⟩) := by
  rw [writeSongs_eq_write, empty, write_of_exceeds _ exceeds]
  simp

/-- The call for a song whose end lies beyond the limit fails, and the sink holds
what comes before the limit. -/
theorem writeSong_of_crossing {before : List Song} {song : Song} {limit : Nat}
    (reached : (bytesOf before).length ≤ limit)
    (crossing : limit < (bytesOf (before ++ [song])).length) (after : List Song) :
    writeSong ⟨some (limit - (bytesOf before).length), (bytesOf before).toArray⟩ song =
      (false, ⟨some 0, ((bytesOf (before ++ song :: after)).take limit).toArray⟩) := by
  have exceeds : limit - (bytesOf before).length < song.bytes.length := by
    rw [bytesOf_append, bytesOf_cons, bytesOf_nil, List.append_nil, List.length_append] at crossing
    omega
  have start : (bytesOf (before ++ song :: after)).take limit =
      bytesOf before ++ song.bytes.take (limit - (bytesOf before).length) := by
    rw [bytesOf_append, bytesOf_cons, List.take_append, List.take_of_length_le reached,
      List.take_append_of_le_length (Nat.le_of_lt exceeds)]
  rw [writeSong_eq_write, write_of_exceeds _ exceeds, start]
  simp

/-- The byte behind the limit belongs to one of the songs. -/
theorem exists_crossing {songs : List Song} {limit : Nat}
    (exceeds : limit < (bytesOf songs).length) :
    ∃ before song after, songs = before ++ song :: after ∧
      (bytesOf before).length ≤ limit ∧ limit < (bytesOf (before ++ [song])).length := by
  induction songs generalizing limit with
  | nil => exact absurd exceeds (Nat.not_lt_zero limit)
  | cons song songs ih =>
      rw [bytesOf_cons, List.length_append] at exceeds
      rcases Nat.lt_or_ge limit song.bytes.length with inside | beyond
      · exact ⟨[], song, songs, rfl, Nat.zero_le _, by simpa using inside⟩
      · have rest : limit - song.bytes.length < (bytesOf songs).length := by omega
        obtain ⟨before, crossed, after, rfl, reached, crossing⟩ := ih rest
        refine ⟨song :: before, crossed, after, rfl, ?_, ?_⟩
        · rw [bytesOf_cons, List.length_append]
          omega
        · rw [List.cons_append, bytesOf_cons, List.length_append]
          omega

/-- Songs are written one after the other, up to the first that does not fit. If all
of them fit, every call succeeds and the sink holds their texts; otherwise the call
for the song in whose text the limit lies fails, and the sink holds the texts up to
the limit. It makes no difference by which pieces a song is written. -/
theorem writeSongs_stops_at_limit (songs : List Song) (limit : Nat) :
    ((bytesOf songs).length ≤ limit →
      (empty (some limit)).writeSongs songs =
          (true, ⟨some (limit - (bytesOf songs).length), (bytesOf songs).toArray⟩) ∧
        ∀ before song after, songs = before ++ song :: after → ∃ s s',
          (empty (some limit)).writeSongs before = (true, s) ∧ s.writeSong song = (true, s')) ∧
    (limit < (bytesOf songs).length → ∃ before song after s,
      songs = before ++ song :: after ∧
        (bytesOf before).length ≤ limit ∧ limit < (bytesOf (before ++ [song])).length ∧
        (empty (some limit)).writeSongs before = (true, s) ∧
        s.writeSong song = (false, ⟨some 0, ((bytesOf songs).take limit).toArray⟩) ∧
        (empty (some limit)).writeSongs songs =
          (false, ⟨some 0, ((bytesOf songs).take limit).toArray⟩)) ∧
    ∀ (song : Song) (pieces : List String), String.join pieces = song.source →
      ∀ s : Sink, s.writeAll pieces = s.writeSong song := by
  refine ⟨?fits, ?exceeds, ?pieces⟩
  case fits =>
    intro fits
    refine ⟨writeSongs_of_fits fits, ?_⟩
    rintro before song after rfl
    simp only [bytesOf_append, bytesOf_cons, List.length_append] at fits
    have room : song.bytes.length ≤ limit - (bytesOf before).length := by omega
    exact ⟨_, _, writeSongs_of_fits (by omega),
      (writeSong_eq_write _ song).trans (write_of_fits _ room)⟩
  case exceeds =>
    intro exceeds
    obtain ⟨before, song, after, rfl, reached, crossing⟩ := exists_crossing exceeds
    exact ⟨before, song, after, _, rfl, reached, crossing, writeSongs_of_fits reached,
      writeSong_of_crossing reached crossing after, writeSongs_of_exceeds exceeds⟩
  case pieces =>
    intro song pieces same s
    rw [writeAll_eq_write, same]
    exact (writeSong_eq_write s song).symm

/-- A song that plays nothing. -/
def mute : Song := ⟨"a", [], none, []⟩

/-- The room ends where the first of two songs ends: its call succeeds, and that of
the second song fails without a byte written. -/
theorem writeSongs_mute_stops_at_limit :
    (empty (some mute.bytes.length)).writeSongs [mute] =
        (true, ⟨some 0, mute.bytes.toArray⟩) ∧
      (empty (some mute.bytes.length)).writeSongs [mute, mute] =
        (false, ⟨some 0, mute.bytes.toArray⟩) := by
  obtain ⟨fits, -, -⟩ := writeSongs_stops_at_limit [mute] mute.bytes.length
  obtain ⟨-, exceeds, -⟩ := writeSongs_stops_at_limit [mute, mute] mute.bytes.length
  have text : 0 < mute.bytes.length := by decide +kernel
  constructor
  · simpa using (fits (by simp)).1
  · obtain ⟨_, _, _, _, -, -, -, -, -, written⟩ := exceeds (by simp; omega)
    simpa using written

end Sink

end Chiptune
