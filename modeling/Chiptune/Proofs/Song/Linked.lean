import Chiptune.Proofs.Compilation
import Chiptune.Proofs.ScreamTracker.Layout
import Chiptune.Proofs.Song.Reader
import Mathlib.Data.List.Nodup

/-!
# Songs whose source links

A compiled song has the patterns that it plays and no others, each once and in
ascending order. In its source every pointer of the table is therefore either
null or the name of an array that is declared before the table and nowhere
else, and no array is left that the table does not name.
-/

namespace Chiptune

namespace Song

/-- The patterns of a song are those that it plays, each once. -/
structure Closed (song : Song) : Prop where
  ascending : (song.patterns.map (·.index)).Pairwise (· < ·)
  played : ∀ p, p ∈ song.patterns.map (·.index) ↔ p ∈ song.orders

/-- The source of a song declares arrays of bytes and, behind them, the table of
pointers to them. -/
structure Linked (song : Song) (arrays : List Declaration) (table : Declaration) : Prop where
  declared : declarations song.source = arrays ++ [table]
  bytes : ∀ array ∈ arrays, array.pointers = false
  names : arrays.map (·.name) = (song.patterns.map (·.index)).map (patternName song.name) ++
    song.startup.toList.map fun _ => startupName song.name
  pointers : table.pointers = true
  name : table.name = song.name
  elements : table.elements = tableElements song ++ ["NULL"]
  /-- What an element names is declared once, and before the table. -/
  defined : ∀ element ∈ table.elements, element ≠ "NULL" →
    element ∈ arrays.map (·.name) ∧ ((declarations song.source).map (·.name)).count element = 1
  referenced : ∀ array ∈ arrays, array.name ∈ table.elements

theorem names_byteArrays (song : Song) :
    (byteArrays song).map (·.name) = (song.patterns.map (·.index)).map (patternName song.name) ++
      song.startup.toList.map fun _ => startupName song.name := by
  rw [byteArrays, List.map_append, List.map_map, List.map_map, List.map_map]
  rfl

theorem patternName_ne_name (name : String) (index : Nat) : patternName name index ≠ name := by
  intro h
  have spelled := congrArg (fun text => text.toList.length) h
  simp [toList_patternName] at spelled

theorem startupName_ne_name (name : String) : startupName name ≠ name := by
  intro h
  have spelled := congrArg (fun text => text.toList.length) h
  simp [startupName] at spelled

theorem Closed.names_nodup {song : Song} (closed : song.Closed) :
    ((byteArrays song ++ [tableArray song]).map (·.name)).Nodup := by
  have patterns : ((song.patterns.map (·.index)).map (patternName song.name)).Nodup :=
    (closed.ascending.imp Nat.ne_of_lt).map _ fun _ _ ne same => ne (patternName_inj.1 same)
  have startup : (song.startup.toList.map fun _ => startupName song.name).Nodup := by
    cases song.startup <;> simp
  rw [List.map_append, names_byteArrays, List.nodup_append, List.nodup_append]
  refine ⟨⟨patterns, startup, ?_⟩, List.nodup_singleton _, ?_⟩
  · intro a inPatterns b inStartup
    obtain ⟨index, -, rfl⟩ := List.mem_map.1 inPatterns
    obtain ⟨_, -, rfl⟩ := List.mem_map.1 inStartup
    exact patternName_ne_startupName song.name index
  · intro a inArrays b isTable
    obtain rfl : b = song.name := List.mem_singleton.1 isTable
    rcases List.mem_append.1 inArrays with inPatterns | inStartup
    · obtain ⟨index, -, rfl⟩ := List.mem_map.1 inPatterns
      exact patternName_ne_name song.name index
    · obtain ⟨_, -, rfl⟩ := List.mem_map.1 inStartup
      exact startupName_ne_name song.name

/-- An element of the table of a closed song is null or names an array of bytes. -/
theorem Closed.mem_names_of_element {song : Song} (closed : song.Closed) {element : String}
    (h : element ∈ tableElements song ++ ["NULL"]) (pointer : element ≠ "NULL") :
    element ∈ (byteArrays song).map (·.name) := by
  rw [names_byteArrays, List.mem_append]
  rcases List.mem_append.1 h with inTable | last
  · rcases List.mem_cons.1 inTable with first | order
    · cases present : song.startup with
      | none =>
          rw [present] at first
          exact absurd first pointer
      | some bytes =>
          rw [present] at first
          exact .inr (by simpa using first)
    · obtain ⟨index, played, rfl⟩ := List.mem_map.1 order
      exact .inl (List.mem_map_of_mem ((closed.played index).2 played))
  · exact absurd (List.mem_singleton.1 last) pointer

theorem Closed.name_mem_elements {song : Song} (closed : song.Closed) {array : Declaration}
    (h : array ∈ byteArrays song) : array.name ∈ tableElements song := by
  have named : array.name ∈ (byteArrays song).map (·.name) := List.mem_map_of_mem h
  rw [names_byteArrays] at named
  rcases List.mem_append.1 named with inPatterns | inStartup
  · obtain ⟨index, exported, same⟩ := List.mem_map.1 inPatterns
    rw [← same]
    exact .tail _ (List.mem_map_of_mem ((closed.played index).1 exported))
  · obtain ⟨bytes, present, same⟩ := List.mem_map.1 inStartup
    have isSome : song.startup.isSome = true :=
      Option.isSome_iff_exists.2 ⟨bytes, by simpa using present⟩
    rw [tableElements, if_pos isSome, ← same]
    exact .head _

/-- The source of a closed song links. -/
theorem Closed.linked {song : Song} (closed : song.Closed) (h : IsIdentifier song.name) :
    song.Linked (byteArrays song) (tableArray song) where
  declared := declarations_source h
  bytes := by
    intro array member
    rcases List.mem_append.1 member with inPatterns | inStartup
    · obtain ⟨p, -, rfl⟩ := List.mem_map.1 inPatterns
      rfl
    · obtain ⟨bytes, -, rfl⟩ := List.mem_map.1 inStartup
      rfl
  names := names_byteArrays song
  pointers := rfl
  name := rfl
  elements := elements_tableArray h
  defined := by
    intro element inTable pointer
    rw [elements_tableArray h] at inTable
    have inArrays := closed.mem_names_of_element inTable pointer
    refine ⟨inArrays, ?_⟩
    rw [declarations_source h]
    apply List.count_eq_one_of_mem closed.names_nodup
    rw [List.map_append]
    exact List.mem_append_left _ inArrays
  referenced := by
    intro array member
    rw [elements_tableArray h]
    exact List.mem_append_left _ (closed.name_mem_elements member)

end Song

/-- The orders of a song that name a pattern. A Scream Tracker song has the
orders that its header counts, of which those past its patterns are markers. -/
def ordersIn (image : Image) : Format → List Nat
  | .screamTracker =>
    ((List.range (ScreamTracker.orderCount image)).map fun k =>
      (ScreamTracker.orderAt image k).toNat).filter (· < ScreamTracker.patternCount image)
  | .protracker => (List.range (Protracker.songLength image)).map (Protracker.orderAt image)

/-- A song is closed if its patterns are compiled from its orders, each one from
its own index. -/
theorem Song.closed_of_forall₂ {f : Nat → Except Failure Pattern} {played : List Nat} {song : Song}
    (compiled : List.Forall₂ (fun p q => f p = .ok q) played song.patterns)
    (keepsIndex : ∀ p q, f p = .ok q → q.index = p) (ascending : played.Pairwise (· < ·))
    (mem_played : ∀ p, p ∈ played ↔ p ∈ song.orders) : song.Closed := by
  have indices := map_index_of_forall₂ compiled keepsIndex
  constructor
  · rw [indices]
    exact ascending
  · intro p
    rw [indices]
    exact mem_played p

theorem ScreamTracker.Tune.validOrders_headerOf {image : Image}
    (instruments : List (Option Instrument)) :
    (headerOf image instruments).validOrders = ordersIn image .screamTracker := by
  have count : (headerOf image instruments).patternCount = ScreamTracker.patternCount image := by
    simp [Tune.patternCount, headerOf]
  rw [validOrders, count, headerOf, List.map_map]
  rfl

/-- A compiled song has the orders of its module, and exactly the patterns that
they name. -/
theorem compile_closed {o : Options} {format : Format} {image : Image} {name : String}
    {song : Song} (h : (compile o format image name).outcome = .ok song) :
    song.Closed ∧ song.orders = ordersIn image format ∧
      (Song.IsIdentifier name → ∃ arrays table, song.Linked arrays table) := by
  have parts : song.Closed ∧ song.orders = ordersIn image format ∧ song.name = name := by
    cases format with
    | screamTracker =>
        obtain ⟨tune, parsed, compiled⟩ := ScreamTracker.compile_eq_ok_iff_tune.1 h
        obtain ⟨-, instruments, -, rfl⟩ := ScreamTracker.Tune.parse_eq_ok_iff.1 parsed
        obtain ⟨named, orders, patterns, -⟩ := ScreamTracker.Tune.compile_eq_ok_iff.1 compiled
        have closed : song.Closed := Song.closed_of_forall₂ patterns
          ScreamTracker.Tune.index_of_compilePattern (ScreamTracker.Tune.played_ascending _)
          fun p => by rw [ScreamTracker.Tune.mem_played, orders]
        rw [ScreamTracker.Tune.validOrders_headerOf] at orders
        exact ⟨closed, orders, named⟩
    | protracker =>
        obtain ⟨tune, parsed, compiled⟩ := Protracker.compile_eq_ok_iff_tune.1 h
        obtain ⟨valid, rfl⟩ := Protracker.Tune.parse_eq_ok_iff.1 parsed
        obtain ⟨named, orders, patterns, -⟩ := Protracker.Tune.compile_eq_ok_iff.1 compiled
        have closed : song.Closed := Song.closed_of_forall₂ patterns
          Protracker.Tune.index_of_compilePattern (Protracker.Tune.played_ascending _)
          fun p => by rw [Protracker.Tune.mem_played, orders]
        rw [Protracker.Tune.orders_headerOf valid] at orders
        exact ⟨closed, orders, named⟩
  obtain ⟨closed, orders, rfl⟩ := parts
  exact ⟨closed, orders, fun identifier => ⟨_, _, closed.linked identifier⟩⟩

/-- The image of a song that plays the last of its three patterns, passes a
marker, and plays the first and once more the last; the one between them has no
place in the image. -/
def repeatedOrders : Image := Array.mk <|
  List.replicate 28 0 ++ [ScreamTracker.nameMarker, 0, 0, 0, 4, 0, 0, 0, 3, 0, 0, 0, 0, 0, 0, 0] ++
    ScreamTracker.songSignature ++ [0, 6, ScreamTracker.playerTempo] ++ List.replicate 45 0 ++
    [2, 254, 0, 2] ++ [7, 0, 255, 255, 7, 0] ++ List.replicate 6 0 ++ [3, 0, 0]

theorem compile_repeatedOrders_closed :
    ∃ song, (compile {} .screamTracker repeatedOrders "tune").outcome = .ok song ∧
      song.orders = [2, 0, 2] ∧ song.Closed ∧
      song.orders = ordersIn repeatedOrders .screamTracker ∧
      ∃ arrays table, song.Linked arrays table := by
  have compiled : (compile {} .screamTracker repeatedOrders "tune").outcome = .ok
      { name := "tune"
        patterns := [⟨0, [[0, 0, 0, 0]]⟩, ⟨2, [[0, 0, 0, 0]]⟩]
        startup := some [1, 6, 2, 0x11, 0x22, 0x44, 0x88, 0]
        orders := [2, 0, 2] } := by decide +kernel
  have identifier : Song.IsIdentifier "tune" := by decide
  obtain ⟨closed, orders, linked⟩ := compile_closed compiled
  exact ⟨_, compiled, rfl, closed, orders, linked identifier⟩

end Chiptune
