import Mathlib.Data.List.Induction
import Mathlib.Data.List.Nodup
import ScorePage.Draft

/-! The attributes of an element as a map in the order of first use. Every key stands there once and
has the value that it was given last, whatever else was done to the element in between. -/
namespace ScorePage

namespace Attributes

def keys (attributes : List (String × String)) : List String := attributes.map Prod.fst

variable {key other : String} {attributes front : List (String × String)}

theorem usedLater {k v : String} (used : key ∈ keys ((k, v) :: attributes)) (other : k ≠ key) :
    key ∈ keys attributes := (List.mem_cons.mp used).resolve_left (Ne.symm other)

theorem setWithin (used : key ∈ keys front) (value : String) (back : List (String × String)) :
    set key value (front ++ back) = set key value front ++ back := by
  induction front with
  | nil => contradiction
  | cons first front ih =>
    obtain ⟨k, v⟩ := first
    rw [List.cons_append, set, set]
    by_cases same : k = key
    · rw [if_pos same, if_pos same, List.cons_append]
    · rw [if_neg same, if_neg same, ih (usedLater used same), List.cons_append]

theorem setBehind (absent : key ∉ keys front) (value : String) (back : List (String × String)) :
    set key value (front ++ back) = front ++ set key value back := by
  induction front with
  | nil => rfl
  | cons first front ih =>
    obtain ⟨k, v⟩ := first
    obtain ⟨different, absent⟩ := not_or.mp (mt List.mem_cons.mpr absent)
    rw [List.cons_append, set, if_neg (Ne.symm different), ih absent, List.cons_append]

theorem setNew (absent : key ∉ keys attributes) (value : String) :
    set key value attributes = attributes ++ [(key, value)] := by
  have behind := setBehind absent value []
  rwa [List.append_nil] at behind

theorem setKeys (value : String) (used : key ∈ keys attributes) :
    keys (set key value attributes) = keys attributes := by
  induction attributes with
  | nil => contradiction
  | cons first rest ih =>
    obtain ⟨k, v⟩ := first
    rw [set]
    by_cases same : k = key
    · rw [if_pos same]
      rfl
    · rw [if_neg same]
      exact congrArg (k :: ·) (ih (usedLater used same))

theorem setOthers (key value : String) (attributes : List (String × String)) :
    (set key value attributes).filter (·.1 ≠ key) = attributes.filter (·.1 ≠ key) := by
  induction attributes with
  | nil => simp [set]
  | cons first rest ih =>
    obtain ⟨k, v⟩ := first
    by_cases same : k = key <;> simp_all [set]

theorem setCommutes (different : key ≠ other) (value otherValue : String)
    (used : key ∈ keys attributes) :
    set other otherValue (set key value attributes) =
      set key value (set other otherValue attributes) := by
  induction attributes with
  | nil => contradiction
  | cons first rest ih =>
    obtain ⟨k, v⟩ := first
    by_cases same : k = key
    · simp [set, same, different]
    · have later := usedLater used same
      by_cases equal : k = other
      · simp [set, equal, different.symm]
      · simp [set, same, equal, ih later]

theorem getSet (key value k : String) (attributes : List (String × String)) :
    get? k (set key value attributes) = if k = key then some value else get? k attributes := by
  induction attributes with
  | nil => simp [set, get?, eq_comm]
  | cons first rest ih =>
    obtain ⟨l, v⟩ := first
    by_cases same : l = key
    · by_cases wanted : k = key <;> simp_all [set, get?, eq_comm]
    · by_cases wanted : l = k <;> simp_all [set, get?]

theorem getNone : get? key attributes = none ↔ key ∉ keys attributes := by
  induction attributes with
  | nil => simp [get?, keys]
  | cons first rest ih =>
    obtain ⟨k, v⟩ := first
    by_cases same : k = key
    · simp [get?, keys, same]
    · simp_all [get?, keys, eq_comm]

theorem getListed (distinct : (keys attributes).Nodup) {value : String} :
    (key, value) ∈ attributes ↔ get? key attributes = some value := by
  induction attributes with
  | nil => simp [get?]
  | cons first rest ih =>
    obtain ⟨k, v⟩ := first
    obtain ⟨fresh, distinct⟩ := List.nodup_cons.mp distinct
    by_cases same : k = key
    · have single : (key, value) ∉ rest := by
        intro member
        exact fresh (List.mem_map.mpr ⟨_, member, same.symm⟩)
      simp [get?, same, single, eq_comm]
    · have apart : ¬(key, value) = (k, v) := fun equal => same (Prod.mk.inj equal).1.symm
      rw [List.mem_cons, or_iff_right apart, get?, if_neg same, ih distinct]

theorem getSwapped (different : key ≠ other) (k value otherValue : String)
    (front back : List (String × String)) :
    get? k (front ++ (other, otherValue) :: (key, value) :: back) =
      get? k (front ++ (key, value) :: (other, otherValue) :: back) := by
  induction front with
  | nil =>
    by_cases same : key = k
    · simp [get?, same, same ▸ different.symm]
    · simp [get?, same]
  | cons first front ih =>
    rw [List.cons_append, List.cons_append, get?, get?, ih]

theorem setSwapped (different : key ≠ other) (k v : String) (front : List (String × String))
    (value otherValue : String) (back : List (String × String)) :
    ∃ front' value' otherValue' back',
      set k v (front ++ (key, value) :: (other, otherValue) :: back) =
        front' ++ (key, value') :: (other, otherValue') :: back' ∧
      set k v (front ++ (other, otherValue) :: (key, value) :: back) =
        front' ++ (other, otherValue') :: (key, value') :: back' := by
  by_cases within : k ∈ keys front
  · exact ⟨set k v front, value, otherValue, back, setWithin within v _, setWithin within v _⟩
  · rw [setBehind within, setBehind within]
    by_cases first : key = k
    · have apart : other ≠ k := fun same => different (first.trans same.symm)
      exact ⟨front, v, otherValue, back, by simp [set, first], by simp [set, first, apart]⟩
    by_cases second : other = k
    · exact ⟨front, value, v, back, by simp [set, first, second], by simp [set, second]⟩
    · exact ⟨front, value, otherValue, set k v back, by simp [set, first, second],
        by simp [set, first, second]⟩

end Attributes

namespace Element
open Attributes

inductive Call where
  | set (key value : String)
  | setText (text : String)
  | add (child : Element)

namespace Call

def carriedOut (e : Element) : Call → Element
  | .set key value => e.setAttribute key value
  | .setText text => e.setText text
  | .add child => e.add child

def key? : Call → Option String
  | .set key _ => some key
  | _ => none

end Call

def after (e : Element) (calls : List Call) : Element := calls.foldl Call.carriedOut e

def keysSet (calls : List Call) : List String := calls.filterMap Call.key?

def LastSet (calls : List Call) (key value : String) : Prop :=
  ∃ before later, calls = before ++ .set key value :: later ∧ key ∉ keysSet later

structure InFirstUse (calls : List Call) (attributes : List (String × String)) : Prop where
  used : ∀ key, key ∈ keys attributes ↔ key ∈ keysSet calls
  ordered : (keys attributes).Pairwise fun key next =>
    (keysSet calls).idxOf key < (keysSet calls).idxOf next
  last : ∀ key value, get? key attributes = some value ↔ LastSet calls key value

variable {calls : List Call} {attributes : List (String × String)}

theorem keysSetSnoc (calls : List Call) (call : Call) :
    keysSet (calls ++ [call]) = keysSet calls ++ call.key?.toList := by
  rw [keysSet, List.filterMap_append]
  cases call <;> rfl

theorem lastSetSnoc {call : Call} {key value : String} :
    LastSet (calls ++ [call]) key value ↔
      call = .set key value ∨ call.key? ≠ some key ∧ LastSet calls key value := by
  constructor
  · rintro ⟨before, later, same, absent⟩
    rcases later.eq_nil_or_concat with rfl | ⟨front, final, rfl⟩
    · exact .inl (List.singleton_inj.mp (List.append_inj_right' same rfl))
    · rw [List.concat_eq_append] at same absent
      rw [← List.cons_append, ← List.append_assoc] at same
      obtain ⟨rfl, equal⟩ := List.append_inj' same rfl
      cases List.singleton_inj.mp equal
      rw [keysSetSnoc, List.mem_append, not_or] at absent
      exact .inr ⟨by simpa using absent.2, before, front, rfl, absent.1⟩
  · rintro (rfl | ⟨other, before, later, rfl, absent⟩)
    · exact ⟨calls, [], rfl, List.not_mem_nil⟩
    · refine ⟨before, later ++ [call], by simp, ?_⟩
      rw [keysSetSnoc, List.mem_append, not_or]
      exact ⟨absent, by simpa using other⟩

namespace InFirstUse

theorem quiet {call : Call} (uses : InFirstUse calls attributes) (silent : call.key? = none) :
    InFirstUse (calls ++ [call]) attributes := by
  have same : keysSet (calls ++ [call]) = keysSet calls := by
    rw [keysSetSnoc, silent]
    exact List.append_nil _
  refine ⟨same ▸ uses.used, same ▸ uses.ordered, fun key value => ?_⟩
  have other : call ≠ .set key value := by
    rintro rfl
    exact Option.some_ne_none key silent
  rw [lastSetSnoc, or_iff_right other, silent, uses.last]
  exact (and_iff_right nofun).symm

theorem usedWith (uses : InFirstUse calls attributes) (key value k : String) :
    k ∈ keys (Attributes.set key value attributes) ↔ k ∈ keysSet calls ++ [key] := by
  by_cases present : key ∈ keys attributes
  · rw [setKeys value present, List.mem_append, ← uses.used, List.mem_singleton]
    exact (or_iff_left_of_imp fun same => same ▸ present).symm
  · rw [setNew present, keys, List.map_append, List.mem_append, List.mem_append, ← uses.used]
    rfl

theorem orderedWith (uses : InFirstUse calls attributes) (key value : String) :
    (keys (Attributes.set key value attributes)).Pairwise fun k next =>
      (keysSet calls ++ [key]).idxOf k < (keysSet calls ++ [key]).idxOf next := by
  have kept {k : String} (member : k ∈ keys attributes) :
      (keysSet calls ++ [key]).idxOf k = (keysSet calls).idxOf k :=
    List.idxOf_append_of_mem ((uses.used k).mp member)
  have ordered : (keys attributes).Pairwise fun k next =>
      (keysSet calls ++ [key]).idxOf k < (keysSet calls ++ [key]).idxOf next :=
    uses.ordered.imp_of_mem fun member next before => by rwa [kept member, kept next]
  by_cases present : key ∈ keys attributes
  · rwa [setKeys value present]
  · rw [setNew present, keys, List.map_append, List.pairwise_append]
    refine ⟨ordered, List.pairwise_singleton _ _, fun k member next last => ?_⟩
    cases List.mem_singleton.mp last
    rw [kept member, List.idxOf_append_of_notMem (mt (uses.used key).mpr present)]
    exact Nat.lt_of_lt_of_le (List.idxOf_lt_length_of_mem ((uses.used k).mp member))
      (Nat.le_add_right _ _)

theorem set (uses : InFirstUse calls attributes) (key value : String) :
    InFirstUse (calls ++ [.set key value]) (Attributes.set key value attributes) := by
  have keysNow : keysSet (calls ++ [.set key value]) = keysSet calls ++ [key] :=
    keysSetSnoc calls (.set key value)
  refine ⟨fun k => keysNow ▸ uses.usedWith key value k, keysNow ▸ uses.orderedWith key value,
    fun k v => ?_⟩
  rw [getSet, lastSetSnoc, ← uses.last]
  by_cases same : k = key
  · simp [same, Call.key?, eq_comm]
  · simp [same, Call.key?, Ne.symm same]

theorem distinct (uses : InFirstUse calls attributes) : (keys attributes).Nodup := by
  refine uses.ordered.imp fun before same => ?_
  rw [same] at before
  exact Nat.lt_irrefl _ before

end InFirstUse

theorem usesAfter {e : Element} (bare : e.label.attributes = []) (calls : List Call) :
    InFirstUse calls (e.after calls).label.attributes := by
  induction calls using List.reverseRecOn with
  | nil =>
    rw [after, List.foldl_nil, bare]
    exact ⟨fun key => by simp [keys, keysSet], .nil, fun key value => by simp [get?, LastSet]⟩
  | append_singleton calls call ih =>
    rw [after, List.foldl_append, List.foldl_cons, List.foldl_nil]
    cases call with
    | set key value => exact ih.set key value
    | setText text => exact ih.quiet rfl
    | add child => exact ih.quiet rfl

structure SameBut (key : String) (e next : Element) : Prop where
  name : next.label.name = e.label.name
  id : next.label.id = e.label.id
  text : next.label.text = e.label.text
  children : next.children = e.children
  others : next.label.attributes.filter (·.1 ≠ key) = e.label.attributes.filter (·.1 ≠ key)

theorem setSameBut (key value : String) (e : Element) : SameBut key e (e.setAttribute key value) :=
  ⟨rfl, rfl, rfl, rfl, setOthers key value e.label.attributes⟩

def Swapped (key other : String) (e next : Element) : Prop :=
  ∃ front value otherValue back,
    e.label.attributes = front ++ (key, value) :: (other, otherValue) :: back ∧
    next = { e with label.attributes := front ++ (other, otherValue) :: (key, value) :: back }

/- Of two keys that were set next to each other: when one of them was there before, nothing shows
which of the calls came first, otherwise the order of the keys does. -/
structure UpToOrder (key other : String) (used : Prop) (e next : Element) : Prop where
  same : used → next = e
  swapped : ¬used → Swapped key other e next
  values : ∀ k, next.attribute? k = e.attribute? k

section

variable {key other : String} (different : key ≠ other)
include different

theorem swappedValues {e next : Element} (swapped : Swapped key other e next) (k : String) :
    next.attribute? k = e.attribute? k := by
  obtain ⟨front, value, otherValue, back, first, rfl⟩ := swapped
  rw [attribute?, attribute?, first, getSwapped different]

theorem swappedCarriedOut {e next : Element} (swapped : Swapped key other e next) (call : Call) :
    Swapped key other (call.carriedOut e) (call.carriedOut next) := by
  obtain ⟨front, value, otherValue, back, first, rfl⟩ := swapped
  cases call with
  | set k v =>
    obtain ⟨front', value', otherValue', back', one, two⟩ :=
      setSwapped different k v front value otherValue back
    refine ⟨front', value', otherValue', back', ?_, ?_⟩
    · rw [Call.carriedOut, setAttribute, first, one]
    · rw [Call.carriedOut, setAttribute, Call.carriedOut, setAttribute, two]
  | setText text => exact ⟨front, value, otherValue, back, first, rfl⟩
  | add child => exact ⟨front, value, otherValue, back, first, rfl⟩

theorem swappedAfter {e next : Element} (swapped : Swapped key other e next) (calls : List Call) :
    Swapped key other (e.after calls) (next.after calls) := by
  induction calls generalizing e next with
  | nil => exact swapped
  | cons call calls ih => exact ih (swappedCarriedOut different swapped call)

theorem setsCommute (value otherValue : String) {e : Element}
    (used : key ∈ keys e.label.attributes ∨ other ∈ keys e.label.attributes) :
    (e.setAttribute other otherValue).setAttribute key value =
      (e.setAttribute key value).setAttribute other otherValue := by
  simp only [setAttribute]
  rcases used with used | used
  · rw [setCommutes different value otherValue used]
  · rw [setCommutes different.symm otherValue value used]

theorem setsSwapped (value otherValue : String) {e : Element}
    (unused : ¬(key ∈ keys e.label.attributes ∨ other ∈ keys e.label.attributes)) :
    Swapped key other ((e.setAttribute key value).setAttribute other otherValue)
      ((e.setAttribute other otherValue).setAttribute key value) := by
  obtain ⟨unusedKey, unusedOther⟩ := not_or.mp unused
  have newOther : other ∉ keys (e.label.attributes ++ [(key, value)]) := by
    simp_all [keys, eq_comm]
  have newKey : key ∉ keys (e.label.attributes ++ [(other, otherValue)]) := by
    simp_all [keys]
  refine ⟨e.label.attributes, value, otherValue, [], ?_, ?_⟩
  · simp only [setAttribute]
    rw [setNew unusedKey, setNew newOther, List.append_assoc]
    rfl
  · simp only [setAttribute]
    rw [setNew unusedOther, setNew newKey, List.append_assoc]
    rfl

theorem callsCommute {e : Element} (bare : e.label.attributes = []) (before later : List Call)
    (value otherValue : String) :
    UpToOrder key other (key ∈ keysSet before ∨ other ∈ keysSet before)
      (e.after (before ++ .set key value :: .set other otherValue :: later))
      (e.after (before ++ .set other otherValue :: .set key value :: later)) := by
  have uses := usesAfter bare before
  rw [← uses.used, ← uses.used]
  simp only [after, List.foldl_append, List.foldl_cons]
  by_cases used : key ∈ keys (e.after before).label.attributes ∨
      other ∈ keys (e.after before).label.attributes
  · have same := congrArg (after · later) (setsCommute different value otherValue used)
    exact ⟨fun _ => same, fun unused => absurd used unused,
      fun k => congrArg (attribute? k) same⟩
  · have swapped := swappedAfter different (setsSwapped different value otherValue used) later
    exact ⟨fun present => absurd present used, fun _ => swapped, swappedValues different swapped⟩

end

theorem attributesByCalls (name : String) (ids : IdSupply) :
    ∃ new left, (Draft.element name).run ids = (new, left) ∧
      (∀ calls, (keys (new.after calls).label.attributes).Nodup ∧
        InFirstUse calls (new.after calls).label.attributes ∧
        (∀ key, (new.after calls).attribute? key = none ↔ key ∉ keysSet calls) ∧
        (∀ key value, (key, value) ∈ (new.after calls).label.attributes ↔
          (new.after calls).attribute? key = some value) ∧
        ∀ key value, SameBut key (new.after calls) ((new.after calls).setAttribute key value)) ∧
      ∀ before later key value other otherValue, key ≠ other →
        UpToOrder key other (key ∈ keysSet before ∨ other ∈ keysSet before)
          (new.after (before ++ .set key value :: .set other otherValue :: later))
          (new.after (before ++ .set other otherValue :: .set key value :: later)) := by
  refine ⟨((Draft.element name).run ids).1, ((Draft.element name).run ids).2, rfl, ?_, ?_⟩
  · intro calls
    have uses := usesAfter (e := ((Draft.element name).run ids).1) rfl calls
    refine ⟨uses.distinct, uses, fun key => ?_, fun key value => getListed uses.distinct,
      fun key value => setSameBut key value _⟩
    rw [attribute?, getNone, uses.used]
  · intro before later key value other otherValue different
    exact callsCommute different rfl before later value otherValue

end Element
end ScorePage
