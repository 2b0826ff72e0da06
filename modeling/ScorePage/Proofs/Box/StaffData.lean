import ScorePage.Box.StaffData
import ScorePage.Proofs.Binary64.Text
import ScorePage.Proofs.Result
import ScorePage.Proofs.Text.Lines
import ScorePage.Zone

/-! Staff data made from boxes. The coordinates are written as the zones of the boxes have them, and
the boxes are read back from that, whatever the label and the last two fields of a line are. -/
namespace ScorePage
open Text

def Box.coordinates (box : Box) : List Binary64 := [box.ulx, box.uly, box.lrx, box.lry]

structure StaffRow where
  label : String
  box : Box
  first : String
  second : String
  ending : LineEnding
  ids : IdSupply

namespace StaffRow

def zone (row : StaffRow) : Element := ((Draft.zone row.box).run row.ids).1

def coordinates (row : StaffRow) : List String :=
  ["ulx", "uly", "lrx", "lry"].filterMap row.zone.attribute?

def fields (row : StaffRow) : List (List Char) :=
  ([row.label] ++ row.coordinates ++ [row.first, row.second]).map String.toList

def line (row : StaffRow) : List Char := ['\t'].intercalate row.fields

def text (closed : Bool) (rows : List StaffRow) : String :=
  String.ofList (ended closed (rows.map fun row => (row.line, row.ending)))

end StaffRow

def IsField (text : List Char) : Prop := ∀ c ∈ text, c ≠ '\t' ∧ c ≠ '\r' ∧ c ≠ '\n'
instance (text : List Char) : Decidable (IsField text) := List.decidableBAll _ text

structure StaffRow.Sound (row : StaffRow) : Prop where
  label : IsField row.label.toList
  first : IsField row.first.toList
  second : IsField row.second.toList
  finite : ∀ x ∈ row.box.coordinates, x.isFinite = true
  nonnegative : ∀ x ∈ row.box.coordinates, x.isNonnegative = true

theorem IsField.unbroken {field : List Char} (plain : IsField field) : Unbroken field := by
  intro c member
  obtain ⟨-, noReturn, noFeed⟩ := plain c member
  simp [isLineEnding, noReturn, noFeed]

theorem IsField.noTab {field : List Char} (plain : IsField field) : '\t' ∉ field := fun tab =>
  (plain '\t' tab).1 rfl

theorem Binary64.textIsField (x : Binary64) : IsField x.text := by
  intro c member
  have solid := x.textSolid c member
  refine ⟨?_, ?_, ?_⟩ <;> rintro rfl <;> contradiction

namespace StaffRow

theorem fieldsTexts (row : StaffRow) : row.fields =
    [row.label.toList, row.box.ulx.text, row.box.uly.text, row.box.lrx.text, row.box.lry.text,
      row.first.toList, row.second.toList] := by
  have coordinates : row.coordinates = row.box.coordinates.map fun x => String.ofList x.text := rfl
  rw [fields, coordinates]
  simp [Box.coordinates]

variable {row : StaffRow}

theorem fieldsPlain (sound : row.Sound) : ∀ field ∈ row.fields, IsField field := by
  rw [fieldsTexts]
  simp only [List.forall_mem_cons]
  exact ⟨sound.label, row.box.ulx.textIsField, row.box.uly.textIsField, row.box.lrx.textIsField,
    row.box.lry.textIsField, sound.first, sound.second, nofun⟩

theorem lineFields (sound : row.Sound) : tabFields row.line = row.fields := by
  refine tabFieldsJoined (by simp [fieldsTexts]) ?_ ?_
  · exact fun field member => (fieldsPlain sound field member).unbroken
  · exact fun field member => (fieldsPlain sound field member).noTab

theorem lineUnbroken (sound : row.Sound) : Unbroken row.line :=
  unbrokenJoined fun field member => (fieldsPlain sound field member).unbroken

theorem lineNotBlank (row : StaffRow) : isBlankText row.line = false := by
  obtain ⟨c, inText⟩ := List.exists_mem_of_ne_nil _ row.box.ulx.textSome
  have solid := row.box.ulx.textSolid c inText
  have inLine : c ∈ row.line := by
    refine (memJoined (row.box.ulx.textIsField c inText).1).mpr ⟨row.box.ulx.text, ?_, inText⟩
    simp [fieldsTexts]
  rw [Bool.eq_false_iff]
  intro blank
  rw [List.all_eq_true.mp blank c inLine] at solid
  contradiction

theorem lineSome (row : StaffRow) : row.line ≠ [] := by
  intro none
  have filled := row.lineNotBlank
  rw [none] at filled
  contradiction

theorem coordinateRead {x : Binary64} (finite : x.isFinite = true)
    (nonnegative : x.isNonnegative = true) : Box.coordinate x.text = .ok x := by
  rw [Box.coordinate, trimNone x.textSolid, x.textRead]
  simp [finite, nonnegative]

theorem lineRead (sound : row.Sound) (number : Nat) : Box.ofLine number row.line = .ok row.box := by
  have read : ∀ x ∈ row.box.coordinates, Box.coordinate x.text = .ok x := fun x member =>
    coordinateRead (sound.finite x member) (sound.nonnegative x member)
  simp only [Box.coordinates, List.forall_mem_cons] at read
  obtain ⟨ulx, uly, lrx, lry, -⟩ := read
  rw [Box.ofLine, lineFields sound, fieldsTexts, Box.ofFields]
  simp only [Box.coordinateFields, List.length_cons, List.length_nil, List.drop_succ_cons,
    List.drop_zero, List.take_succ_cons, List.take_zero, ulx, uly, lrx, lry]
  rfl

end StaffRow

theorem staffDataReadBack {rows : List StaffRow} (sound : ∀ row ∈ rows, row.Sound) (closed : Bool) :
    Box.ofStaffData (StaffRow.text closed rows) = .ok (rows.map StaffRow.box) := by
  have lined : lines (StaffRow.text closed rows).toList = rows.map StaffRow.line := by
    rw [StaffRow.text, String.toList_ofList, linesEnded, List.map_map]
    · rfl
    · intro part member
      obtain ⟨row, inside, rfl⟩ := List.mem_map.mp member
      exact StaffRow.lineUnbroken (sound row inside)
    · intro part member
      obtain ⟨row, -, rfl⟩ := List.mem_map.mp member
      change row.line ≠ []
      exact row.lineSome
  have filled : ∀ part ∈ (rows.map StaffRow.line).zipIdx 1, (!isBlankText part.1) = true := by
    intro part member
    obtain ⟨row, -, same⟩ := List.mem_map.mp (List.fst_mem_of_mem_zipIdx member)
    rw [← same, row.lineNotBlank]
    rfl
  rw [Box.ofStaffData, lined]
  dsimp only
  rw [List.filter_eq_self.mpr filled, Result.mapMOk, List.zipIdx_map, List.map_map, List.map_map]
  calc (rows.zipIdx 1).map ((fun part => Box.ofLine part.2 part.1) ∘ Prod.map StaffRow.line id)
    _ = ((rows.zipIdx 1).map Prod.fst).map (.ok ∘ StaffRow.box) := by
      rw [List.map_map]
      refine List.map_congr_left fun part member => ?_
      rw [Function.comp_apply, Function.comp_apply, Function.comp_apply, Prod.map_fst, Prod.map_snd]
      exact StaffRow.lineRead (sound part.1 (List.fst_mem_of_mem_zipIdx member)) part.2
    _ = rows.map (.ok ∘ StaffRow.box) := by rw [List.zipIdx_map_fst]

def unlabelledRow : StaffRow where
  label := ""
  box := ⟨.zero true, .ofQuotient false 1 10, .ofQuotient false 1 4, .ofQuotient false 3 1⟩
  first := ""
  second := " "
  ending := .returnAndFeed
  ids := .ofSeed 0

def widestRow : StaffRow where
  label := " "
  box := ⟨.number false ⟨1, by decide⟩, .number false ⟨1, by decide⟩,
    .number false ⟨infinityRank - 1, by decide⟩, .number false ⟨infinityRank - 1, by decide⟩⟩
  first := ""
  second := ""
  ending := .feed
  ids := .ofSeed 1

theorem extremesReadBack :
    StaffRow.text true [unlabelledRow] = "\t-0\t0.1\t0.25\t3\t\t \r\n" ∧
    Box.ofStaffData (StaffRow.text false [unlabelledRow, widestRow]) =
      .ok [unlabelledRow.box, widestRow.box] := by
  have sound : ∀ row ∈ [unlabelledRow, widestRow], row.Sound := by
    simp only [List.forall_mem_cons]
    refine ⟨⟨?_, ?_, ?_, ?_, ?_⟩, ⟨?_, ?_, ?_, ?_, ?_⟩, nofun⟩ <;> decide +kernel
  exact ⟨by decide +kernel, staffDataReadBack sound false⟩

end ScorePage
