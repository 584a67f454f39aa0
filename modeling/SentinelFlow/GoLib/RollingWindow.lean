import Mathlib.Data.List.Nodup

/-!
# Rolling windows

Queues of instants from which the front is dropped once it is old.  A queue may
be filled out of order; what matters for a bound on every interval is that an
instant leaves only when a reading a whole width later has been made.
-/

namespace GoLib

/-- Every interval of the given width, open on the left, holds at most `limit`
of the instants. -/
def AtMost (limit : Nat) (width : Int) (instants : List Int) : Prop :=
  ∀ last, instants.countP
    (fun instant => last - width < instant ∧ instant ≤ last) ≤ limit

/-- The queue is the last part of the log, and every instant that has left it is
a whole width older than one of the readings. -/
def Tracks (width : Int) (readings log queue : List Int) : Prop :=
  ∃ gone, log = gone ++ queue ∧
    ∀ instant ∈ gone, ∃ reading ∈ readings, instant ≤ reading - width

variable {width now : Int} {readings log queue : List Int} {limit : Nat}

/-- Drops the front of the queue up to the cutoff. -/
def dropUntil (cutoff : Int) (queue : List Int) : List Int :=
  queue.dropWhile (· ≤ cutoff)

theorem tracks_nil : Tracks width readings [] [] :=
  ⟨[], rfl, nofun⟩

theorem Tracks.dropUntil
    (tracks : Tracks width readings log queue) (now : Int) :
    Tracks width (readings ++ [now]) log (dropUntil (now - width) queue) := by
  obtain ⟨gone, rfl, old⟩ := tracks
  refine ⟨gone ++ queue.takeWhile (· ≤ now - width), ?_, ?_⟩
  · rw [GoLib.dropUntil, List.append_assoc, List.takeWhile_append_dropWhile]
  · intro instant member
    rcases List.mem_append.mp member with before | dropped
    · obtain ⟨reading, made, older⟩ := old instant before
      exact ⟨reading, List.mem_append_left _ made, older⟩
    · have older : decide (instant ≤ now - width) = true :=
        List.all_eq_true.mp List.all_takeWhile instant dropped
      exact ⟨now, List.mem_append_right _ (List.mem_singleton_self _),
        of_decide_eq_true older⟩

theorem Tracks.concat
    (tracks : Tracks width readings log queue) (now : Int) :
    Tracks width readings (log ++ [now]) (queue ++ [now]) := by
  obtain ⟨gone, rfl, old⟩ := tracks
  exact ⟨gone, List.append_assoc _ _ _, old⟩

/-- An instant that is not before any reading may be added while the queue is
short. -/
theorem AtMost.concat
    (atMost : AtMost limit width log)
    (tracks : Tracks width readings log queue)
    (latest : ∀ reading ∈ readings, reading ≤ now)
    (short : queue.length < limit) : AtMost limit width (log ++ [now]) := by
  intro last
  rw [List.countP_append, List.countP_singleton]
  split
  next inside =>
    obtain ⟨gone, rfl, old⟩ := tracks
    have inside := of_decide_eq_true inside
    -- Nothing that has left the queue is within a width of the new instant.
    have none : gone.countP (fun instant =>
        last - width < instant ∧ instant ≤ last) = 0 := by
      refine List.countP_eq_zero.mpr ?_
      intro instant member within
      obtain ⟨reading, made, older⟩ := old instant member
      have := latest reading made
      have := of_decide_eq_true within
      omega
    have rest : queue.countP (fun instant =>
        last - width < instant ∧ instant ≤ last) ≤ queue.length :=
      List.countP_le_length
    rw [List.countP_append, none]
    omega
  · exact atMost last

/-! ## One queue for each key -/

/-- Queues by key, each key once. -/
structure Windows (K : Type) where
  entries : List (K × List Int)
  distinct : (entries.map Prod.fst).Nodup

namespace Windows

variable {K : Type}

def empty : Windows K where
  entries := []
  distinct := List.nodup_nil

def size (windows : Windows K) : Nat :=
  windows.entries.length

/-- Every queue loses its front up to the cutoff; a queue that is left empty is
removed. -/
def prune (cutoff : Int) (windows : Windows K) : Windows K where
  entries := (windows.entries.map fun entry =>
    (entry.1, dropUntil cutoff entry.2)).filter fun entry => entry.2 ≠ []
  distinct := by
    refine (List.filter_sublist.map Prod.fst).nodup ?_
    rw [List.map_map]
    exact windows.distinct

theorem size_prune_le (cutoff : Int) (windows : Windows K) :
    (windows.prune cutoff).size ≤ windows.size :=
  Nat.le_trans (List.length_filter_le _ _)
    (Nat.le_of_eq (List.length_map _))

variable [DecidableEq K]

def find (windows : Windows K) (key : K) : Option (List Int) :=
  windows.entries.lookup key

/-- The queue of a key, empty if it has none. -/
def times (windows : Windows K) (key : K) : List Int :=
  (windows.find key).getD []

/-- The instant is added at the end of the queue of the key. -/
def add (windows : Windows K) (key : K) (now : Int) : Windows K :=
  if present : key ∈ windows.entries.map Prod.fst then
    { entries := windows.entries.map fun entry =>
        if entry.1 = key then (key, entry.2 ++ [now]) else entry
      distinct := by
        have keys : (windows.entries.map fun entry =>
            if entry.1 = key then (key, entry.2 ++ [now]) else entry).map
              Prod.fst = windows.entries.map Prod.fst := by
          rw [List.map_map]
          refine List.map_congr_left ?_
          intro entry _
          by_cases same : entry.1 = key <;> simp [same]
        rw [keys]
        exact windows.distinct }
  else
    { entries := windows.entries ++ [(key, [now])]
      distinct := by
        rw [List.map_append, List.nodup_append]
        refine ⟨windows.distinct, List.nodup_singleton _, ?_⟩
        rintro first member second here rfl
        rw [List.mem_singleton.mp here] at member
        exact present member }

private theorem lookup_eq_none {entries : List (K × List Int)} {key : K}
    (absent : key ∉ entries.map Prod.fst) : entries.lookup key = none := by
  rw [List.lookup_eq_none_iff]
  intro entry member
  rw [bne_iff_ne]
  rintro rfl
  exact absent (List.mem_map_of_mem member)

theorem find_eq_none_iff {windows : Windows K} {key : K} :
    windows.find key = none ↔ key ∉ windows.entries.map Prod.fst := by
  refine ⟨?_, lookup_eq_none⟩
  intro missing present
  obtain ⟨entry, member, rfl⟩ := List.mem_map.mp present
  have other := List.lookup_eq_none_iff.mp missing entry member
  exact absurd rfl (bne_iff_ne.mp other)

private theorem lookup_prune (cutoff : Int)
    {entries : List (K × List Int)} (distinct : (entries.map Prod.fst).Nodup)
    (key : K) :
    (((entries.map fun entry => (entry.1, dropUntil cutoff entry.2)).filter
      fun entry => entry.2 ≠ []).lookup key).getD [] =
        dropUntil cutoff ((entries.lookup key).getD []) := by
  induction entries with
  | nil => rfl
  | cons entry rest induction =>
      obtain ⟨absent, distinct⟩ := List.nodup_cons.mp distinct
      have induction := induction distinct
      rw [List.map_cons, List.filter_cons, List.lookup_cons]
      by_cases same : key = entry.1
      · subst same
        rw [beq_self_eq_true, Option.getD_some]
        by_cases left : dropUntil cutoff entry.2 = []
        · rw [if_neg (by simp [left]), induction, lookup_eq_none absent, left]
          rfl
        · rw [if_pos (by simp [left]), List.lookup_cons, beq_self_eq_true]
          rfl
      · rw [beq_eq_false_iff_ne.mpr same]
        by_cases left : dropUntil cutoff entry.2 = []
        · rw [if_neg (by simp [left])]
          exact induction
        · rw [if_pos (by simp [left]), List.lookup_cons,
            beq_eq_false_iff_ne.mpr same]
          exact induction

theorem times_prune (cutoff : Int) (windows : Windows K) (key : K) :
    (windows.prune cutoff).times key = dropUntil cutoff (windows.times key) :=
  lookup_prune cutoff windows.distinct key

private theorem lookup_update (entries : List (K × List Int)) (key other : K)
    (now : Int) :
    (entries.map fun entry =>
        if entry.1 = key then (key, entry.2 ++ [now]) else entry).lookup other =
      if other = key then (entries.lookup key).map (· ++ [now])
      else entries.lookup other := by
  induction entries with
  | nil => simp
  | cons entry rest induction =>
      rw [List.map_cons, List.lookup_cons, List.lookup_cons, List.lookup_cons,
        induction]
      by_cases same : entry.1 = key
      · subst same
        by_cases here : other = entry.1
        · simp [here]
        · simp [here, beq_eq_false_iff_ne.mpr here]
      · by_cases here : other = key
        · subst here
          simp [same, beq_eq_false_iff_ne.mpr (Ne.symm same)]
        · simp [same, here]

theorem times_add (windows : Windows K) (key other : K) (now : Int) :
    (windows.add key now).times other =
      if other = key then windows.times key ++ [now]
      else windows.times other := by
  unfold add times find
  split
  next present =>
    obtain ⟨entry, member, rfl⟩ := List.mem_map.mp present
    obtain ⟨found, here⟩ : ∃ queue,
        windows.entries.lookup entry.1 = some queue := by
      refine Option.isSome_iff_exists.mp (Option.isSome_iff_ne_none.mpr ?_)
      exact fun missing => find_eq_none_iff.mp missing present
    rw [lookup_update]
    by_cases same : other = entry.1
    · simp [same, here]
    · simp [same]
  next absent =>
    rw [List.lookup_append, List.lookup_cons]
    by_cases same : other = key
    · subst same
      simp [lookup_eq_none absent]
    · simp [same, beq_eq_false_iff_ne.mpr same]

theorem size_add (windows : Windows K) (key : K) (now : Int) :
    (windows.add key now).size =
      if (windows.find key).isSome then windows.size else windows.size + 1 := by
  unfold add size
  split
  next present =>
    have found : (windows.find key).isSome = true := by
      rw [Option.isSome_iff_ne_none]
      exact fun missing => find_eq_none_iff.mp missing present
    rw [if_pos found, List.length_map]
  next absent =>
    rw [if_neg (by simp [find_eq_none_iff.mpr absent]), List.length_append]
    rfl

end Windows

end GoLib
