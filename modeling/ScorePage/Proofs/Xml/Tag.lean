import Mathlib.Tactic.SplitIfs
import ScorePage.Xml

/-! What stands in a tag. Escaped text has no angle bracket and no quote, and the escape of one
character is not the beginning of another's, so that name, id and attributes can be read off a tag
when the name holds no space and the keys hold no equals sign. -/
namespace ScorePage

namespace Label

def Names (p : String → Prop) (label : Label) : Prop :=
  p label.name ∧ ∀ pair ∈ label.attributes, p pair.1
instance (p : String → Prop) [DecidablePred p] (label : Label) : Decidable (label.Names p) :=
  inferInstanceAs (Decidable (p label.name ∧ ∀ pair ∈ label.attributes, p pair.1))

theorem namesWeaken {p q : String → Prop} (weaker : ∀ name, p name → q name) {label : Label}
    (names : label.Names p) : label.Names q :=
  ⟨weaker _ names.1, fun pair member => weaker _ (names.2 pair member)⟩

end Label

namespace Xml

theorem firstCut {c : Char} {front before rest others : List Char} (notFront : c ∉ front)
    (notBefore : c ∉ before) (same : front ++ c :: rest = before ++ c :: others) :
    front = before ∧ rest = others := by
  induction front generalizing before with
  | nil =>
    cases before with
    | nil => exact ⟨rfl, (List.cons.inj same).2⟩
    | cons d before =>
      rw [(List.cons.inj same).1] at notBefore
      exact absurd List.mem_cons_self notBefore
  | cons d front ih =>
    cases before with
    | nil =>
      rw [← (List.cons.inj same).1] at notFront
      exact absurd List.mem_cons_self notFront
    | cons e before =>
      obtain ⟨rfl, tails⟩ := List.cons.inj same
      obtain ⟨rfl, rests⟩ := ih (fun inside => notFront (List.mem_cons_of_mem _ inside))
        (fun inside => notBefore (List.mem_cons_of_mem _ inside)) tails
      exact ⟨rfl, rests⟩

def entities : List (Char × List Char) :=
  [('<', "&lt;".toList), ('>', "&gt;".toList), ('&', "&amp;".toList), ('\'', "&apos;".toList),
    ('"', "&quot;".toList)]

theorem escapeCharShape (c : Char) : (c, escapeChar c) ∈ entities ∨
    (escapeChar c = [c] ∧ c ∉ entities.map Prod.fst) := by
  unfold escapeChar
  split_ifs <;> simp_all [entities]

theorem entitiesApart : ∀ entity ∈ entities, ∀ other ∈ entities,
    entity.2.isPrefixOf other.2 = true → entity = other := by
  decide

def delimiters : List Char := ['<', '>', '"']

theorem entitiesMarked : ∀ entity ∈ entities, entity.2.head? = some '&' ∧
    ∀ c ∈ delimiters, c ∉ entity.2 := by
  simp [entities, delimiters]

theorem delimitersEscaped : ∀ c ∈ delimiters, c ∈ entities.map Prod.fst := by
  simp [delimiters, entities]

theorem escapeCharSome (c : Char) : escapeChar c ≠ [] := by
  unfold escapeChar
  split_ifs <;> simp

theorem escapeCharApart {c d : Char} (inside : escapeChar c <+: escapeChar d) : c = d := by
  have heads : (escapeChar d).head? = (escapeChar c).head? := by
    obtain ⟨rest, whole⟩ := inside
    rw [← whole, List.head?_append]
    exact Option.or_of_isSome (List.isSome_head?.mpr (escapeCharSome c))
  rcases escapeCharShape c with entity | ⟨plain, other⟩
  · rcases escapeCharShape d with entity' | ⟨plain', other'⟩
    · have begins := List.isPrefixOf_iff_prefix.mpr inside
      exact congrArg Prod.fst (entitiesApart _ entity _ entity' begins)
    · rw [plain', (entitiesMarked _ entity).1] at heads
      cases heads
      exact absurd (by decide) other'
  · rcases escapeCharShape d with entity' | ⟨plain', other'⟩
    · rw [plain, (entitiesMarked _ entity').1] at heads
      cases heads
      exact absurd (by decide) other
    · rw [plain, plain'] at heads
      cases heads
      rfl

theorem escapeCharCut {c d : Char} {rest others : List Char}
    (same : escapeChar c ++ rest = escapeChar d ++ others) : c = d ∧ rest = others := by
  have sameChar : c = d := by
    rcases List.prefix_or_prefix_of_prefix ⟨rest, same⟩ (List.prefix_append _ others) with
      inside | inside
    · exact escapeCharApart inside
    · exact (escapeCharApart inside).symm
  subst sameChar
  exact ⟨rfl, List.append_cancel_left same⟩

theorem escapeInjective {text other : List Char} (same : escape text = escape other) :
    text = other := by
  induction text generalizing other with
  | nil =>
    cases other with
    | nil => rfl
    | cons d other => simp [escape, escapeCharSome] at same
  | cons c text ih =>
    cases other with
    | nil => simp [escape, escapeCharSome] at same
    | cons d other =>
      obtain ⟨rfl, tails⟩ := escapeCharCut same
      rw [ih tails]

theorem escapedPlain {c : Char} (delimits : c ∈ delimiters) (text : List Char) :
    c ∉ escape text := by
  intro inside
  obtain ⟨d, _, inside⟩ := List.mem_flatMap.mp inside
  rcases escapeCharShape d with entity | ⟨plain, other⟩
  · exact (entitiesMarked _ entity).2 c delimits inside
  · rw [plain, List.mem_singleton] at inside
    exact other (inside ▸ delimitersEscaped c delimits)

def attributesText (pairs : List (String × String)) : List Char :=
  pairs.flatMap fun (key, value) => attributeText key value

theorem attributesCut {pairs others : List (String × String)} {rest behind : List Char}
    (keys : ∀ pair ∈ pairs, '=' ∉ pair.1.toList) (otherKeys : ∀ pair ∈ others, '=' ∉ pair.1.toList)
    (ends : rest.head? ≠ some ' ') (otherEnds : behind.head? ≠ some ' ')
    (same : attributesText pairs ++ rest = attributesText others ++ behind) :
    pairs = others ∧ rest = behind := by
  have step (key value : String) (pairs : List (String × String)) (rest : List Char) :
      attributesText ((key, value) :: pairs) ++ rest = ' ' :: (key.toList ++ '=' :: '"' ::
        (escape value.toList ++ '"' :: (attributesText pairs ++ rest))) := by
    simp [attributesText, attributeText]
  induction pairs generalizing others with
  | nil =>
    cases others with
    | nil => exact ⟨rfl, same⟩
    | cons other others =>
      rw [step other.1 other.2] at same
      exact absurd (congrArg List.head? same) ends
  | cons pair pairs ih =>
    obtain ⟨key, value⟩ := pair
    cases others with
    | nil =>
      rw [step] at same
      exact absurd (congrArg List.head? same).symm otherEnds
    | cons other others =>
      obtain ⟨otherKey, otherValue⟩ := other
      obtain ⟨keyPlain, keys⟩ := List.forall_mem_cons.mp keys
      obtain ⟨otherPlain, otherKeys⟩ := List.forall_mem_cons.mp otherKeys
      rw [step, step] at same
      obtain ⟨sameKey, behindKey⟩ := firstCut keyPlain otherPlain (List.cons.inj same).2
      obtain ⟨sameValue, behindValue⟩ := firstCut (escapedPlain (by decide) _)
        (escapedPlain (by decide) _) (List.cons.inj behindKey).2
      obtain ⟨rfl, rests⟩ := ih keys otherKeys behindValue
      cases String.toList_inj.mp sameKey
      cases String.toList_inj.mp (escapeInjective sameValue)
      exact ⟨rfl, rests⟩

/- Characters that stand for themselves in no name. Of all blanks only the space ends a name. -/
def markCharacters : List Char := [' ', '<', '>', '/', '=', '&', '\'', '"']

def PlainName (name : String) : Prop := ∀ c ∈ markCharacters, c ∉ name.toList
-- Along the list: all characters there are would be too many to look at.
instance (name : String) : Decidable (PlainName name) :=
  List.decidableBAll (fun c => c ∉ name.toList) markCharacters

def attributesOf (before : List (String × String)) (label : Label) : List (String × String) :=
  before ++ ("xml:id", label.id) :: label.attributes

theorem openedParts (before : List (String × String)) (label : Label) :
    opened before label = label.name.toList ++ attributesText (attributesOf before label) := rfl

theorem attributesBegin (before : List (String × String)) (label : Label) :
    ∃ rest, attributesText (attributesOf before label) = ' ' :: rest := by
  cases before with
  | nil => exact ⟨_, rfl⟩
  | cons pair before => exact ⟨_, rfl⟩

section

variable {before : List (String × String)} {label : Label}

theorem keysOf {p : String → Prop} (keys : ∀ pair ∈ before, p pair.1) (own : p "xml:id")
    (names : label.Names p) : ∀ pair ∈ attributesOf before label, p pair.1 :=
  List.forall_mem_append.mpr ⟨keys, List.forall_mem_cons.mpr ⟨own, names.2⟩⟩

theorem openedNotClosing (names : label.Names PlainName) (ends : List Char) :
    (opened before label ++ ends).head? ≠ some '/' := by
  obtain ⟨rest, begin⟩ := attributesBegin before label
  rw [openedParts, begin]
  cases shape : label.name.toList with
  | nil => simp
  | cons c name =>
    rintro ⟨⟩
    exact names.1 '/' (by decide) (shape ▸ List.mem_cons_self)

theorem openedPlain (keys : ∀ pair ∈ before, '>' ∉ pair.1.toList)
    (names : label.Names fun name => '>' ∉ name.toList) : '>' ∉ opened before label := by
  intro inside
  rw [openedParts] at inside
  rcases List.mem_append.mp inside with inside | inside
  · exact names.1 inside
  · obtain ⟨⟨key, value⟩, member, inside⟩ := List.mem_flatMap.mp inside
    have plainKey := keysOf keys (by decide) names _ member
    have plainValue := escapedPlain (show '>' ∈ delimiters by decide) value.toList
    simp [attributeText, plainKey, plainValue] at inside

theorem openedCut {other : Label} {rest behind : List Char}
    (keys : ∀ pair ∈ before, PlainName pair.1) (names : label.Names PlainName)
    (otherNames : other.Names PlainName) (ends : rest.head? ≠ some ' ')
    (otherEnds : behind.head? ≠ some ' ')
    (same : opened before label ++ rest = opened before other ++ behind) :
    (label.name = other.name ∧ label.id = other.id ∧ label.attributes = other.attributes) ∧
      rest = behind := by
  obtain ⟨tail, begin⟩ := attributesBegin before label
  obtain ⟨otherTail, otherBegin⟩ := attributesBegin before other
  have plain {label : Label} (names : label.Names PlainName) :
      ∀ pair ∈ attributesOf before label, '=' ∉ pair.1.toList := fun pair member =>
    keysOf keys (by decide) names pair member '=' (by decide)
  rw [openedParts, openedParts, List.append_assoc, List.append_assoc] at same
  have spaced := same
  rw [begin, otherBegin, List.cons_append, List.cons_append] at spaced
  obtain ⟨sameName, -⟩ :=
    firstCut (names.1 ' ' (by decide)) (otherNames.1 ' ' (by decide)) spaced
  rw [sameName] at same
  obtain ⟨pairs, rests⟩ := attributesCut (plain names) (plain otherNames) ends otherEnds
    (List.append_cancel_left same)
  obtain ⟨sameId, sameAttributes⟩ := List.cons.inj (List.append_cancel_left pairs)
  exact ⟨⟨String.toList_inj.mp sameName, (Prod.mk.inj sameId).2, sameAttributes⟩, rests⟩

end

end Xml
end ScorePage
