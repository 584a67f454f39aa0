import Mathlib.Data.List.Lex
import Mathlib.Data.List.Sort
import Mathlib.Data.Prod.Lex
import SentinelFlow.GoLib.Bytes

/-!
# Sorted slices and maps with keys

What Go programs make of `sort` and of maps: a slice that is sorted by a
comparison of keys, a slice of strings without repetitions, the values of a
map that refuses two different values for one key, and the values grouped by a
key in the order of the keys.  A strictly sorted list is determined by its
members, which is why none of this depends on the order of the input or on the
order in which a map is iterated.
-/

namespace GoLib

variable {α ε K : Type}

instance linearOrderUInt8 : LinearOrder UInt8 where
  le_refl := UInt8.le_refl
  le_trans _ _ _ := UInt8.le_trans
  le_antisymm _ _ := UInt8.le_antisymm
  le_total := UInt8.le_total
  toDecidableLE := inferInstance
  toDecidableEq := inferInstance
  toDecidableLT := inferInstance
  lt_iff_le_not_ge first second := by
    simp only [UInt8.lt_iff_toNat_lt, UInt8.le_iff_toNat_le]
    omega

/-! ## Sorting -/

/-- `sort.Slice(items, less)`.  The standard library may use another algorithm;
where `less` leaves no ties every algorithm ends in the same list. -/
def sortSlice (less : α → α → Bool) (items : List α) : List α :=
  items.insertionSort fun first second => less second first = false

theorem perm_sortSlice (less : α → α → Bool) (items : List α) :
    (sortSlice less items).Perm items :=
  List.perm_insertionSort _ items

@[simp] theorem mem_sortSlice
    {less : α → α → Bool} {items : List α} {item : α} :
    item ∈ sortSlice less items ↔ item ∈ items :=
  (perm_sortSlice less items).mem_iff

/-- The comparison of a sort is that of the keys. -/
def Compares [LinearOrder K] (less : α → α → Bool) (key : α → K) : Prop :=
  ∀ first second, less first second = true ↔ key first < key second

/-- A list in the strict order of the keys. -/
def Increasing [LinearOrder K] (key : α → K) (items : List α) : Prop :=
  items.Pairwise fun first second => key first < key second

section Keys

variable [LinearOrder K] {less : α → α → Bool} {key : α → K}

theorem Compares.sorted (compares : Compares less key) (items : List α) :
    (sortSlice less items).Pairwise fun first second =>
      key first ≤ key second := by
  have unordered : ∀ first second,
      less second first = false ↔ key first ≤ key second := by
    intro first second
    rw [← Bool.not_eq_true, compares second first, not_lt]
  let before : α → α → Prop := fun first second => less second first = false
  have total : Std.Total before :=
    ⟨fun first second => by
      simpa only [before, unordered] using le_total (key first) (key second)⟩
  have transitive : IsTrans α before :=
    ⟨fun first second third => by
      simpa only [before, unordered] using le_trans⟩
  apply (List.pairwise_insertionSort before items).imp
  intro first second ordered
  exact (unordered first second).mp ordered

theorem Compares.increasing
    (compares : Compares less key) {items : List α}
    (distinct : (items.map key).Nodup) :
    Increasing key (sortSlice less items) := by
  have apart : (sortSlice less items).Pairwise fun first second =>
      key first ≠ key second := by
    apply List.pairwise_map.mp
    exact ((perm_sortSlice less items).map key).nodup_iff.mpr distinct
  apply ((compares.sorted items).and apart).imp
  intro first second both
  exact lt_of_le_of_ne both.1 both.2

/-- A strictly sorted list is determined by its members. -/
theorem Increasing.ext
    {first second : List α} (left : Increasing key first)
    (right : Increasing key second)
    (members : ∀ item, item ∈ first ↔ item ∈ second) : first = second := by
  have irreflexive : Std.Irrefl fun first second : α =>
      key first < key second := ⟨fun item => lt_irrefl (key item)⟩
  have antisymmetric : Std.Antisymm fun first second : α =>
      key first < key second :=
    ⟨fun _ _ below above => absurd below above.asymm⟩
  exact left.eq_of_mem_iff right members

theorem Increasing.filter
    {items : List α} (increasing : Increasing key items) (keep : α → Bool) :
    Increasing key (items.filter keep) :=
  increasing.sublist List.filter_sublist

theorem Increasing.nodup
    {items : List α} (increasing : Increasing key items) : items.Nodup := by
  apply increasing.imp
  rintro first second below rfl
  exact lt_irrefl _ below

end Keys

/-! ## Strings without repetitions -/

/-- The rest of a compaction after the value that was written last. -/
def compactFrom (last : Bytes) : List Bytes → List Bytes
  | [] => []
  | value :: rest =>
      if value = last then compactFrom last rest
      else value :: compactFrom value rest

/-- Overwrites each run of equal values by its first value. -/
def compact : List Bytes → List Bytes
  | [] => []
  | value :: rest => value :: compactFrom value rest

/-- The strings in their order without repetitions. -/
def sortedUnique (values : List Bytes) : List Bytes :=
  compact (sortSlice (fun first second => first < second) values)

theorem compares_bytes :
    Compares (fun first second : Bytes => decide (first < second)) id :=
  fun _ _ => decide_eq_true_iff

private theorem compactFrom_spec
    {last : Bytes} {values : List Bytes}
    (sorted : values.Pairwise (· ≤ ·))
    (above : ∀ value ∈ values, last ≤ value) :
    Increasing id (last :: compactFrom last values) ∧
      ∀ value, value ∈ last :: compactFrom last values ↔
        value = last ∨ value ∈ values := by
  induction values generalizing last with
  | nil => simp [compactFrom, Increasing]
  | cons value rest ih =>
      obtain ⟨least, sorted⟩ := List.pairwise_cons.mp sorted
      obtain ⟨increasing, members⟩ := ih sorted least
      by_cases same : value = last
      · subst same
        rw [compactFrom, if_pos rfl]
        refine ⟨increasing, fun other => ?_⟩
        rw [members other, List.mem_cons]
        tauto
      · rw [compactFrom, if_neg same]
        have below : last < value :=
          lt_of_le_of_ne (above value List.mem_cons_self) (Ne.symm same)
        refine ⟨List.pairwise_cons.mpr ⟨?_, increasing⟩, fun other => ?_⟩
        · intro other member
          rcases (members other).mp member with rfl | member
          · exact below
          · exact lt_of_lt_of_le below (least other member)
        · rw [List.mem_cons, members other, List.mem_cons]

theorem sortedUnique_spec (values : List Bytes) :
    Increasing id (sortedUnique values) ∧
      ∀ value, value ∈ sortedUnique values ↔ value ∈ values := by
  have sorted := compares_bytes.sorted values
  have members : ∀ value, value ∈ sortSlice
      (fun first second => decide (first < second)) values ↔
        value ∈ values := fun value => mem_sortSlice
  unfold sortedUnique
  generalize sortSlice _ values = ordered at sorted members
  cases ordered with
  | nil =>
      refine ⟨List.Pairwise.nil, fun value => ?_⟩
      rw [← members value, compact]
  | cons last rest =>
      obtain ⟨least, sorted⟩ := List.pairwise_cons.mp sorted
      obtain ⟨increasing, same⟩ := @compactFrom_spec last rest sorted least
      refine ⟨increasing, fun value => ?_⟩
      rw [← members value, compact, same value, List.mem_cons]

/-! ## One value for each identity -/

/-- The loop over `values` that fills a map by identity: each value passes the
check, and an identity that is there already must name the same value. -/
def collectFrom [DecidableEq α] (refuse : Nat → α → Option ε)
    (identity : α → Bytes) (conflict : Nat → α → ε) :
    Nat → List α → List α → Except ε (List α)
  | _, kept, [] => .ok kept
  | index, kept, value :: rest =>
      match refuse index value with
      | some error => .error error
      | none =>
          match kept.find? (fun previous => identity previous == identity value)
            with
          | some previous =>
              if previous = value then
                collectFrom refuse identity conflict (index + 1) kept rest
              else .error (conflict index value)
          | none =>
              collectFrom refuse identity conflict (index + 1)
                (kept ++ [value]) rest

/-- The values of the map, in the order in which they came. -/
def collect [DecidableEq α] (refuse : Nat → α → Option ε)
    (identity : α → Bytes) (conflict : Nat → α → ε) (values : List α) :
    Except ε (List α) :=
  collectFrom refuse identity conflict 0 [] values

section Collect

variable [DecidableEq α] {refuse : Nat → α → Option ε}
  {identity : α → Bytes} {conflict : Nat → α → ε} {valid : α → Prop}
  (checks : ∀ index value, refuse index value = none ↔ valid value)
include checks

variable {result values : List α}

private theorem collectFrom_ok
    {index : Nat} {kept : List α}
    (distinct : (kept.map identity).Nodup)
    (collected : collectFrom refuse identity conflict index kept values =
      .ok result) :
    (result.map identity).Nodup ∧
      (∀ value, value ∈ result ↔ value ∈ kept ∨ value ∈ values) ∧
      ∀ value ∈ values, valid value := by
  induction values generalizing index kept with
  | nil =>
      cases collected
      simpa using distinct
  | cons value rest ih =>
      rw [collectFrom] at collected
      split at collected
      · cases collected
      next passed =>
        have held := (checks index value).mp passed
        split at collected
        next previous found =>
          split at collected
          next same =>
            subst same
            have member := List.mem_of_find?_eq_some found
            obtain ⟨unique, members, valid⟩ := ih distinct collected
            refine ⟨unique, fun other => ?_, ?_⟩
            · rw [members other, List.mem_cons]
              constructor
              · tauto
              · rintro (inside | rfl | inside)
                · exact .inl inside
                · exact .inl member
                · exact .inr inside
            · exact List.forall_mem_cons.mpr ⟨held, valid⟩
          · cases collected
        next absent =>
          have fresh : identity value ∉ kept.map identity := by
            rw [List.mem_map]
            rintro ⟨previous, member, same⟩
            have missed := List.find?_eq_none.mp absent previous member
            simp [same] at missed
          have unique : ((kept ++ [value]).map identity).Nodup := by
            rw [List.map_append, List.nodup_append]
            refine ⟨distinct, List.nodup_singleton _, ?_⟩
            intro first inside second last same
            rw [List.map_singleton, List.mem_singleton] at last
            subst last
            exact fresh (same ▸ inside)
          obtain ⟨unique, members, valid⟩ := ih unique collected
          refine ⟨unique, fun other => ?_, ?_⟩
          · rw [members other, List.mem_append, List.mem_singleton,
              List.mem_cons, or_assoc]
          · exact List.forall_mem_cons.mpr ⟨held, valid⟩

private theorem exists_collectFrom
    {index : Nat} {kept : List α}
    (sound : ∀ value ∈ values, valid value)
    (agree : ∀ first ∈ kept ++ values, ∀ second ∈ kept ++ values,
      identity first = identity second → first = second) :
    ∃ result, collectFrom refuse identity conflict index kept values =
      .ok result := by
  induction values generalizing index kept with
  | nil => exact ⟨kept, rfl⟩
  | cons value rest ih =>
      obtain ⟨held, sound⟩ := List.forall_mem_cons.mp sound
      rw [collectFrom, (checks index value).mpr held]
      dsimp only
      split
      next previous found =>
        have same : previous = value := by
          apply agree previous _ value
          · simp
          · simpa using List.find?_some found
          · exact List.mem_append_left _ (List.mem_of_find?_eq_some found)
        rw [if_pos same]
        apply ih sound
        intro first inside second outside
        apply agree first _ second
        · rw [List.mem_append, List.mem_cons]
          rcases List.mem_append.mp outside with old | new
          · exact .inl old
          · exact .inr (.inr new)
        · rw [List.mem_append, List.mem_cons]
          rcases List.mem_append.mp inside with old | new
          · exact .inl old
          · exact .inr (.inr new)
      · apply ih sound
        simpa only [List.append_assoc, List.singleton_append] using agree

/-- The values that a map keeps: each of them once, and nothing is lost. -/
theorem collect_ok
    (collected : collect refuse identity conflict values = .ok result) :
    (result.map identity).Nodup ∧
      (∀ value, value ∈ result ↔ value ∈ values) ∧
      ∀ value ∈ values, valid value := by
  have empty : (([] : List α).map identity).Nodup := List.nodup_nil
  obtain ⟨unique, members, valid⟩ := collectFrom_ok checks empty collected
  exact ⟨unique, fun value => by simpa using members value, valid⟩

/-- Whether the values are accepted depends on their set alone. -/
theorem exists_collect_iff :
    (∃ result, collect refuse identity conflict values = .ok result) ↔
      (∀ value ∈ values, valid value) ∧
        ∀ first ∈ values, ∀ second ∈ values,
          identity first = identity second → first = second := by
  constructor
  · rintro ⟨result, collected⟩
    obtain ⟨unique, members, sound⟩ := collect_ok checks collected
    refine ⟨sound, fun first inside second outside same => ?_⟩
    exact List.inj_on_of_nodup_map unique ((members first).mpr inside)
      ((members second).mpr outside) same
  · rintro ⟨sound, agree⟩
    exact exists_collectFrom checks sound (by simpa using agree)

/-- The values of the map in an order that tells identities apart. -/
theorem collect_sorted
    [LinearOrder K] {less : α → α → Bool} {key : α → K}
    (compares : Compares less key) (recover : K → Bytes)
    (recovers : ∀ value, recover (key value) = identity value)
    (sorted : (collect refuse identity conflict values).map (sortSlice less) =
      .ok result) :
    ((∀ value ∈ values, valid value) ∧
      ∀ first ∈ values, ∀ second ∈ values,
        identity first = identity second → first = second) ∧
      Increasing key result ∧ (result.map identity).Nodup ∧
        ∀ value, value ∈ result ↔ value ∈ values := by
  cases collected : collect refuse identity conflict values with
  | error =>
      rw [collected] at sorted
      cases sorted
  | ok kept =>
      rw [collected] at sorted
      cases sorted
      obtain ⟨distinct, members, -⟩ := collect_ok checks collected
      refine ⟨(exists_collect_iff checks).mp ⟨kept, collected⟩, ?_, ?_,
        fun value => ?_⟩
      · apply compares.increasing
        apply List.Nodup.of_map recover
        rw [List.map_map]
        have same : recover ∘ key = identity := funext recovers
        rwa [same]
      · exact (((perm_sortSlice less kept).map identity).nodup_iff).mpr distinct
      · rw [mem_sortSlice, members value]

end Collect

/-! ## Groups -/

/-- `groups[key] = append(groups[key], item)` -/
def appendGroup [DecidableEq K] (key : K) (item : α) :
    List (K × List α) → List (K × List α)
  | [] => [(key, [item])]
  | (other, members) :: rest =>
      if other = key then (other, members ++ [item]) :: rest
      else (other, members) :: appendGroup key item rest

def groupItems [DecidableEq K] (key : α → K) (items : List α) :
    List (K × List α) :=
  items.foldl (fun groups item => appendGroup (key item) item groups) []

/-- The groups in the order of their keys. -/
def sortedGroups [DecidableEq K] (key : α → K) (less : K → K → Bool)
    (items : List α) : List (K × List α) :=
  let groups := groupItems key items
  (sortSlice less (groups.map Prod.fst)).map fun name =>
    (name, (groups.lookup name).getD [])

section Groups

variable [DecidableEq K]

/-- The group of `name` holds what was appended under that name. -/
private def Grouped (key : α → K) (items : List α)
    (groups : List (K × List α)) : Prop :=
  (groups.map Prod.fst).Nodup ∧
    (∀ name, name ∈ groups.map Prod.fst ↔ ∃ item ∈ items, key item = name) ∧
    ∀ name, (groups.lookup name).getD [] = items.filter (key · = name)

variable {name : K} {groups : List (K × List α)} {item : α}

private theorem mem_appendGroup
    {other : K} :
    other ∈ (appendGroup name item groups).map Prod.fst ↔
      other = name ∨ other ∈ groups.map Prod.fst := by
  induction groups with
  | nil => simp [appendGroup]
  | cons group rest ih =>
      rw [appendGroup]
      split
      next same =>
        simp only [List.map_cons, List.mem_cons, same]
        tauto
      next different =>
        rw [List.map_cons, List.mem_cons, ih, List.map_cons, List.mem_cons]
        tauto

private theorem nodup_appendGroup
    (distinct : (groups.map Prod.fst).Nodup) :
    ((appendGroup name item groups).map Prod.fst).Nodup := by
  induction groups with
  | nil => simp [appendGroup]
  | cons group rest ih =>
      rw [List.map_cons, List.nodup_cons] at distinct
      rw [appendGroup]
      split
      · exact List.nodup_cons.mpr distinct
      next different =>
        rw [List.map_cons, List.nodup_cons, mem_appendGroup]
        exact ⟨fun inside => inside.elim different distinct.1, ih distinct.2⟩

private theorem lookup_appendGroup
    {other : K} :
    ((appendGroup name item groups).lookup other).getD [] =
      (groups.lookup other).getD [] ++ if name = other then [item] else [] := by
  induction groups with
  | nil =>
      by_cases same : name = other
      · simp [appendGroup, same]
      · simp [appendGroup, List.lookup_cons, same, beq_false_of_ne (Ne.symm same)]
  | cons group rest ih =>
      obtain ⟨first, members⟩ := group
      rw [appendGroup]
      by_cases same : first = name
      · rw [if_pos same]
        by_cases found : other = first
        · simp [found, same]
        · have apart : ¬ name = other := fun equal =>
            found (equal.symm.trans same.symm)
          simp [List.lookup_cons, beq_false_of_ne found, apart]
      · rw [if_neg same]
        by_cases found : other = first
        · have apart : ¬ name = other := fun equal =>
            same (found.symm.trans equal.symm)
          simp [found, Ne.symm same]
        · simpa [List.lookup_cons, beq_false_of_ne found] using ih

private theorem groupItems_grouped (key : α → K) (items : List α) :
    Grouped key items (groupItems key items) := by
  induction items using List.reverseRecOn with
  | nil => simp [Grouped, groupItems]
  | append_singleton items item ih =>
      obtain ⟨distinct, names, contents⟩ := ih
      rw [groupItems, List.foldl_append, ← groupItems]
      refine ⟨nodup_appendGroup distinct, fun name => ?_, fun name => ?_⟩
      · rw [List.foldl_cons, List.foldl_nil, mem_appendGroup, names name]
        simp only [List.mem_append, List.mem_singleton, or_and_right,
          exists_or, exists_eq_left, eq_comm (a := name)]
        exact Or.comm
      · rw [List.foldl_cons, List.foldl_nil, lookup_appendGroup,
          contents name, List.filter_append, List.filter_singleton]
        by_cases same : key item = name
        · simp [same]
        · simp [same]

/-- The groups are the classes of the items, under the keys that occur, in the
order of the keys. -/
theorem sortedGroups_spec
    {L : Type} [LinearOrder L] (key : α → K) {less : K → K → Bool}
    {rank : K → L} (compares : Compares less rank) (injective : Function.Injective rank)
    (items : List α) :
    ∃ names, Increasing rank names ∧
      (∀ name, name ∈ names ↔ ∃ item ∈ items, key item = name) ∧
      sortedGroups key less items =
        names.map fun name => (name, items.filter (key · = name)) := by
  obtain ⟨distinct, names, contents⟩ := groupItems_grouped key items
  refine ⟨sortSlice less ((groupItems key items).map Prod.fst),
    compares.increasing (distinct.map injective), fun name => ?_, ?_⟩
  · rw [mem_sortSlice, names name]
  · unfold sortedGroups
    simp only [contents]

end Groups

end GoLib
