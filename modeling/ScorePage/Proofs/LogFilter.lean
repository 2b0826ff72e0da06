import Mathlib.Data.List.Pairwise
import ScorePage.Proofs.Directive

/-! Which directive of a filter decides on an event. A filter never holds two directives for the same
target and fields, so of the directives that fit an event exactly one is above all others. The
directive for more details decides unless one that was asked for is more specific than it. -/
namespace ScorePage

namespace Directive

def reach (d : Directive) : Nat := (d.target.map (·.length + 1)).getD 0

theorem lessSpecific {d e : Directive} :
    d.isLessSpecific e = true ↔
      d.reach < e.reach ∨ (d.reach = e.reach ∧ d.fields.length < e.fields.length) := by
  simp [isLessSpecific, reach]

theorem notLessSpecific {d e : Directive} :
    d.isLessSpecific e = false ↔
      e.reach < d.reach ∨ (d.reach = e.reach ∧ e.fields.length ≤ d.fields.length) := by
  rw [Bool.eq_false_iff, Ne, lessSpecific]
  omega

theorem notLessTrans {d e f : Directive} (first : d.isLessSpecific e = false)
    (second : e.isLessSpecific f = false) : d.isLessSpecific f = false := by
  rw [notLessSpecific] at first second ⊢
  omega

theorem notLessOfLess {d e : Directive} (less : d.isLessSpecific e = true) :
    e.isLessSpecific d = false := by
  rw [lessSpecific] at less
  rw [notLessSpecific]
  omega

def Alike (d e : Directive) : Prop := d.target = e.target ∧ d.fields = e.fields

theorem alikeIrrefl {d e : Directive} (alike : d.Alike e) : d.isLessSpecific e = false := by
  rw [notLessSpecific, reach, reach, alike.1, alike.2]
  exact .inr ⟨rfl, Nat.le_refl _⟩

theorem fitsTarget {d : Directive} {event : Event} (fits : d.fits event = true) {target : List Char}
    (named : d.target = some target) : target <+: event.target.toList := by
  rw [Directive.fits, Bool.and_eq_true, named] at fits
  exact List.isPrefixOf_iff_prefix.mp fits.1

theorem fitsFields {d : Directive} {event : Event} (fits : d.fits event = true) :
    d.fields = List.replicate d.fields.length "message".toList := by
  rw [Directive.fits, Bool.and_eq_true, List.all_eq_true] at fits
  exact List.eq_replicate_of_mem fun field member => eq_of_beq (fits.2 field member)

theorem alikeOfLevel {d e : Directive} {event : Event} (fits : d.fits event = true)
    (otherFits : e.fits event = true) (notLess : d.isLessSpecific e = false)
    (notMore : e.isLessSpecific d = false) : d.Alike e := by
  rw [notLessSpecific] at notLess notMore
  have reaches : d.reach = e.reach := by omega
  have lengths : d.fields.length = e.fields.length := by omega
  constructor
  · cases named : d.target with
    | none =>
      cases otherNamed : e.target with
      | none => rfl
      | some other => simp [reach, named, otherNamed] at reaches
    | some target =>
      cases otherNamed : e.target with
      | none => simp [reach, named, otherNamed] at reaches
      | some other =>
        have lengths : target.length = other.length := by
          simpa [reach, named, otherNamed] using reaches
        have inside := List.prefix_of_prefix_length_le (fitsTarget fits named)
          (fitsTarget otherFits otherNamed) (Nat.le_of_eq lengths)
        exact congrArg some (inside.eq_of_length lengths)
  · rw [fitsFields fits, fitsFields otherFits, lengths]

end Directive

namespace LogFilter
open Directive

def Apart (filter : LogFilter) : Prop := filter.Pairwise fun d e => ¬ d.Alike e

theorem memAdd {filter : LogFilter} {d e : Directive} :
    e ∈ filter.add d ↔ (e ∈ filter ∧ ¬ e.Alike d) ∨ e = d := by
  simp [add, Alike, imp_iff_not_or]

theorem apartAdd {filter : LogFilter} (apart : Apart filter) (d : Directive) :
    Apart (filter.add d) := by
  rw [Apart, add, List.pairwise_append]
  refine ⟨apart.filter _, List.pairwise_singleton .., ?_⟩
  intro e member other last
  rw [List.mem_singleton.mp last]
  simpa [Alike, imp_iff_not_or] using (List.mem_filter.mp member).2

theorem apartAddAll {filter : LogFilter} (apart : Apart filter) (ds : List Directive) :
    Apart (ds.foldl add filter) := by
  induction ds generalizing filter with
  | nil => exact apart
  | cons d ds ih => exact ih (apartAdd apart d)

theorem ofTextOnly {text : String} {filter : LogFilter} :
    ofText? text = some filter ↔ ofText text = .ok filter := by
  rw [ofText?]
  cases ofText text <;> simp [Except.toOption]

theorem apartOfText {text : String} {filter : LogFilter} (read : ofText? text = some filter) :
    Apart filter := by
  obtain ⟨found, -, same⟩ := Result.bindOk.mp (ofTextOnly.mp read)
  cases same
  exact apartAddAll List.Pairwise.nil _

def asked (wish : Option String) : LogFilter := (wish.bind ofText?).getD warnings

theorem apartAsked (wish : Option String) : Apart (asked wish) := by
  unfold asked
  cases read : wish.bind ofText? with
  | none => exact List.pairwise_singleton ..
  | some filter =>
    obtain ⟨text, -, read⟩ := Option.bind_eq_some_iff.mp read
    exact apartOfText read

/- A reader of wishes is to give a filter or to refuse. With these wishes it does neither. -/
def BreaksOff (wish : Option String) : Prop :=
  ∃ text, wish = some text ∧ ofText text = .error .brokenOff

instance (wish : Option String) : Decidable (BreaksOff wish) :=
  decidable_of_iff (wish.map ofText = some (.error .brokenOff)) Option.map_eq_some_iff

theorem forRunBroken {wish : Option String} (broken : BreaksOff wish) (verbose : Bool) :
    forRun wish verbose = none := by
  obtain ⟨text, rfl, broken⟩ := broken
  rw [forRun, Option.map_some, broken]
  rfl

theorem forRunAnswered {wish : Option String} (answered : ¬ BreaksOff wish) (verbose : Bool) :
    forRun wish verbose = some (if verbose then (asked wish).add details else asked wish) := by
  cases wish with
  | none => rfl
  | some text =>
    rw [forRun, asked, Option.map_some, Option.bind_some, ofText?]
    cases read : ofText text with
    | ok filter => rfl
    | error fault =>
      cases fault with
      | refused => rfl
      | brokenOff => exact absurd ⟨text, rfl, read⟩ answered

structure Decides (filter : LogFilter) (event : Event) (d : Directive) : Prop where
  member : d ∈ filter
  fits : d.fits event = true
  top : ∀ other ∈ filter, other.fits event = true → d.isLessSpecific other = false

theorem decidesUnique {filter : LogFilter} (apart : Apart filter) {event : Event} {d e : Directive}
    (decides : filter.Decides event d) (again : filter.Decides event e) : d = e := by
  have alike : d.Alike e := alikeOfLevel decides.fits again.fits
    (decides.top e again.member again.fits) (again.top d decides.member decides.fits)
  have bothWays : Std.Symm fun d e : Directive => ¬ d.Alike e :=
    ⟨fun _ _ apart alike => apart ⟨alike.1.symm, alike.2.symm⟩⟩
  by_contra different
  exact List.Pairwise.forall apart decides.member again.member different alike

theorem mostSpecificTop (ds : List Directive) (best : Directive) :
    ∃ d, ds.foldl mostSpecific (some best) = some d ∧ d ∈ best :: ds ∧
      ∀ other ∈ best :: ds, d.isLessSpecific other = false := by
  induction ds generalizing best with
  | nil =>
    refine ⟨best, rfl, List.mem_cons_self, fun other member => ?_⟩
    rw [List.mem_singleton.mp member]
    exact alikeIrrefl ⟨rfl, rfl⟩
  | cons e ds ih =>
    rw [List.foldl_cons, mostSpecific]
    cases less : best.isLessSpecific e with
    | true =>
      obtain ⟨d, found, member, top⟩ := ih e
      obtain ⟨first, others⟩ := List.forall_mem_cons.mp top
      refine ⟨d, found, List.mem_cons_of_mem best member, ?_⟩
      refine List.forall_mem_cons.mpr ⟨?_, top⟩
      exact notLessTrans first (notLessOfLess less)
    | false =>
      obtain ⟨d, found, member, top⟩ := ih best
      obtain ⟨first, others⟩ := List.forall_mem_cons.mp top
      refine ⟨d, found, ?_, ?_⟩
      · rcases List.mem_cons.mp member with rfl | behind
        · exact List.mem_cons_self
        · exact List.mem_cons_of_mem _ (List.mem_cons_of_mem _ behind)
      · refine List.forall_mem_cons.mpr ⟨first, List.forall_mem_cons.mpr ⟨?_, others⟩⟩
        exact notLessTrans first less

theorem decided {filter : LogFilter} {event : Event} {d : Directive} (member : d ∈ filter)
    (fits : d.fits event = true) : ∃ e, filter.Decides event e ∧
      filter.shows event = decide (event.level.rank ≤ e.limit) := by
  cases fitting : filter.filter (·.fits event) with
  | nil =>
    have none := List.filter_eq_nil_iff.mp fitting d member
    exact absurd fits none
  | cons best ds =>
    obtain ⟨e, found, inside, top⟩ := mostSpecificTop ds best
    rw [← fitting] at inside top
    obtain ⟨there, fits⟩ := List.mem_filter.mp inside
    refine ⟨e, ⟨there, fits, fun other member fits => ?_⟩, ?_⟩
    · exact top other (List.mem_filter.mpr ⟨member, fits⟩)
    · rw [shows, fitting, List.foldl_cons, mostSpecific, found]

structure Overrules (filter : LogFilter) (event : Event) (d : Directive) : Prop
    extends filter.Decides event d where
  above : details.isLessSpecific d = true

theorem addedAbove {filter : LogFilter} {d : Directive} (above : details.isLessSpecific d = true) :
    d ∈ filter.add details ↔ d ∈ filter := by
  have apart : ¬ d.Alike details := fun alike => by
    rw [alikeIrrefl ⟨alike.1.symm, alike.2.symm⟩] at above
    contradiction
  have other : d ≠ details := fun same => apart ⟨congrArg target same, congrArg fields same⟩
  rw [memAdd, or_iff_left other]
  exact and_iff_left apart

/- With more details an event that these are about is shown, unless a directive that was asked for
is more specific and lets less through. -/
theorem detailsShow {filter : LogFilter} (apart : Apart filter) {event : Event}
    (fits : details.fits event = true) (level : event.level.rank = details.limit) :
    (filter.add details).shows event = true ↔
      ∀ d, filter.Overrules event d → details.limit ≤ d.limit := by
  obtain ⟨e, decides, shown⟩ := decided (memAdd.mpr (.inr rfl) : details ∈ filter.add details) fits
  rw [shown, decide_eq_true_eq, level]
  cases above : details.isLessSpecific e with
  | true =>
    have overrules : filter.Overrules event e := by
      refine ⟨⟨(addedAbove above).mp decides.member, decides.fits, fun other there fits => ?_⟩, above⟩
      cases higher : details.isLessSpecific other with
      | true => exact decides.top other ((addedAbove higher).mpr there) fits
      | false => exact notLessTrans (notLessOfLess above) higher
    constructor
    · intro enough d again
      rw [decidesUnique apart again.toDecides overrules.toDecides]
      exact enough
    · intro every
      exact every e overrules
  | false =>
    have alone : (filter.add details).Decides event details := by
      refine ⟨memAdd.mpr (.inr rfl), fits, fun other there fits => ?_⟩
      exact notLessTrans above (decides.top other there fits)
    cases decidesUnique (apartAdd apart details) decides alone
    refine ⟨fun _ d overrules => ?_, fun _ => Nat.le_refl _⟩
    have level := alone.top d ((addedAbove overrules.above).mpr overrules.member) overrules.fits
    exact absurd (overrules.above.symm.trans level) Bool.true_eq_false.mp

end LogFilter
end ScorePage
