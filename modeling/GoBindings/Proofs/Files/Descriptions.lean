import GoBindings.ModelWriter
import GoBindings.Proofs.Naming.CaseLaws
import GoBindings.Proofs.Runs.Outcome

/-!
# Descriptions in model files

The descriptions of a model and of its fields may be any texts. In the file of the model they only
make comment lines, so a file and the one without descriptions differ in comment lines alone: this
is the main statement. The file is put together from blocks of whole lines, and the lines of such a
block do not depend on what stands before or after it, so it is enough to look at each block.
-/

namespace GoBindings

/-! ## Lines of code -/

/-- A line that holds a comment only: the mark of comments stands at its start or behind one tab. -/
def isCommentLine (line : String) : Bool :=
  Text.startsWith commentMark line || Text.startsWith ("\t" ++ commentMark) line

/-- The lines of a text without its comment lines. -/
def codeLines (text : String) : List String :=
  (Text.segments '\n' text).filter (!isCommentLine ·)

/-- A text without line feeds is one line. -/
theorem segments_of_not_mem {text : String} (single : '\n' ∉ text.toList) :
    Text.segments '\n' text = [text] := by
  rw [Text.segments, Chars.segments_of_not_mem single, List.map_singleton, String.ofList_toList]

/-- Before and after a line feed the lines of code are those of both parts. -/
theorem codeLines_append (first second : String) :
    codeLines (first ++ "\n" ++ second) = codeLines first ++ codeLines second := by
  have chars : (first ++ "\n" ++ second).toList = first.toList ++ '\n' :: second.toList := by
    rw [String.toList_append, String.toList_append, List.append_assoc]
    rfl
  rw [codeLines, Text.segments, chars, Chars.segments_append, List.map_append, List.filter_append]
  rfl

/-! ## Blocks of whole lines -/

/-- A block is whole lines of which these are code: so it is whatever follows it. -/
def HasCode (block : String) (code : List String) : Prop :=
  ∀ rest, codeLines (block ++ rest) = code ++ codeLines rest

namespace HasCode

/-- The empty block has no code. -/
theorem empty : HasCode "" [] := fun rest => by rw [String.empty_append, List.nil_append]

/-- A line has the code of its text. -/
theorem line (text : String) : HasCode (ModelFile.line text) (codeLines text) :=
  fun rest => codeLines_append text rest

/-- One block after another has the code of both. -/
theorem append {first second : String} {code more : List String} (head : HasCode first code)
    (tail : HasCode second more) : HasCode (first ++ second) (code ++ more) := by
  intro rest
  rw [String.append_assoc, head, tail, List.append_assoc]

/-- The lines of a file that is whole lines. -/
theorem codeLines_eq {block : String} {code : List String} (block_code : HasCode block code) :
    codeLines block = code ++ codeLines "" := by
  rw [← block_code, String.append_empty]

end HasCode

/-- Two blocks of whole lines have the same code. -/
def SameCode (first second : String) : Prop := ∃ code, HasCode first code ∧ HasCode second code

namespace SameCode

/-- Texts of whole lines with the same code have the same lines of code. -/
theorem codeLines_eq {first second : String} (same : SameCode first second) :
    codeLines first = codeLines second := by
  obtain ⟨code, left, right⟩ := same
  rw [left.codeLines_eq, right.codeLines_eq]

/-- The empty block has the code of itself. -/
theorem empty : SameCode "" "" := ⟨[], .empty, .empty⟩

/-- A line has the code of itself. -/
theorem line (text : String) : SameCode (ModelFile.line text) (ModelFile.line text) :=
  ⟨_, .line text, .line text⟩

/-- Blocks in order have the same code where they have it one by one. -/
theorem append {first second other another : String} (head : SameCode first other)
    (tail : SameCode second another) : SameCode (first ++ second) (other ++ another) := by
  obtain ⟨code, left, right⟩ := head
  obtain ⟨more, next, last⟩ := tail
  exact ⟨code ++ more, left.append next, right.append last⟩

/-- A list of blocks has the same code as another where each block has. -/
theorem join {α : Type} {items : List α} {f g : α → String}
    (each : ∀ item ∈ items, SameCode (f item) (g item)) :
    SameCode (String.join (items.map f)) (String.join (items.map g)) := by
  induction items with
  | nil => exact .empty
  | cons item rest ih =>
    rw [List.map_cons, List.map_cons, String.join_cons, String.join_cons]
    exact (each item List.mem_cons_self).append
      (ih fun other member => each other (List.mem_cons_of_mem item member))

end SameCode

/-! ## Comments -/

/-- A marked line is a comment line, also behind one tab. -/
theorem isCommentLine_commentLine {indentation : String}
    (placed : indentation = "" ∨ indentation = "\t") (text : String) :
    isCommentLine (indentation ++ commentLine commentMark text) = true := by
  have marked : ∃ rest, commentLine commentMark text = commentMark ++ rest := by
    rw [commentLine]
    split
    · exact ⟨"", (String.append_empty).symm⟩
    · exact ⟨" " ++ text, String.append_assoc⟩
  obtain ⟨rest, begun⟩ := marked
  rw [begun, isCommentLine, Bool.or_eq_true, Text.startsWith_iff, Text.startsWith_iff]
  rcases placed with rfl | rfl
  · left
    rw [String.empty_append, String.toList_append]
    exact List.prefix_append _ _
  · right
    rw [← String.append_assoc, String.toList_append (s := "\t" ++ commentMark)]
    exact List.prefix_append _ _

/-- A line of a description leaves no code. -/
theorem codeLines_commentLine {indentation : String}
    (placed : indentation = "" ∨ indentation = "\t") {text : String} (single : '\n' ∉ text.toList) :
    codeLines (indentation ++ commentLine commentMark text) = [] := by
  have whole : '\n' ∉ (indentation ++ commentLine commentMark text).toList := by
    intro member
    rw [String.toList_append] at member
    rcases List.mem_append.1 member with before | after
    · rcases placed with rfl | rfl
      · cases before
      · exact absurd before (by decide)
    · rw [commentLine] at after
      split at after
      · exact absurd after (by decide)
      · rw [String.toList_append, String.toList_append] at after
        rcases List.mem_append.1 after with mark | inner
        · exact absurd mark (by decide)
        · exact single inner
  rw [codeLines, segments_of_not_mem whole]
  simp [isCommentLine_commentLine placed]

/-- The marked lines of a text leave no code, the first of them behind an indentation. -/
theorem codeLines_join_commentLines {indentation : String}
    (placed : indentation = "" ∨ indentation = "\t") {parts : List String} (nonempty : parts ≠ [])
    (single : ∀ part ∈ parts, '\n' ∉ part.toList) :
    codeLines (indentation ++ Text.join "\n" (parts.map (commentLine commentMark))) = [] := by
  induction parts generalizing indentation with
  | nil => exact absurd rfl nonempty
  | cons part rest ih =>
    have first := codeLines_commentLine placed (single part List.mem_cons_self)
    cases rest with
    | nil => simpa [Text.join] using first
    | cons next more =>
      have later := ih (.inl rfl) (List.cons_ne_nil next more)
        fun other member => single other (List.mem_cons_of_mem part member)
      rw [String.empty_append] at later
      rw [List.map_cons, List.map_cons, Text.join, String.intercalate_cons_cons,
        ← String.append_assoc, ← String.append_assoc, codeLines_append, first]
      exact later

/-- The parts that a text is cut into hold no line feeds. -/
theorem not_mem_of_mem_segments {text part : String} (cut : part ∈ Text.segments '\n' text) :
    '\n' ∉ part.toList := by
  obtain ⟨chars, there, rfl⟩ := List.mem_map.1 cut
  rw [String.toList_ofList]
  exact fun member => (Chars.of_mem_segments there member).2 rfl

/-- A description leaves no code, whatever its text. -/
theorem hasCode_descriptionBlock {indentation : String}
    (placed : indentation = "" ∨ indentation = "\t") (description : Option String) :
    HasCode (ModelFile.descriptionBlock indentation description) [] := by
  rw [ModelFile.descriptionBlock]
  split
  · rename_i text _
    have cut : Text.segments '\n' text ≠ [] := by
      rw [Text.segments]
      exact mt List.map_eq_nil_iff.1 (Chars.segments_ne_nil _ _)
    have none := codeLines_join_commentLines placed cut fun part => not_mem_of_mem_segments
    intro rest
    rw [HasCode.line, commentLines, none]
  · exact .empty

/-! ## Files -/

/-- A field without its description. -/
def GoField.withoutDescription (field : GoField) : GoField := { field with description := none }

/-- A model without its description and those of its fields. -/
def GoModel.withoutDescriptions (model : GoModel) : GoModel :=
  { model with description := none, fields := model.fields.map GoField.withoutDescription }

namespace ModelFile

/-- The imports are whole lines. -/
theorem sameCode_importBlock (imports : List Label) :
    SameCode (importBlock imports) (importBlock imports) := by
  rw [importBlock.eq_def]
  split
  · exact .empty
  · exact .line _
  · exact ((SameCode.line _).append (.join fun _ _ => .line _)).append (.line _)

/-- A struct declaration has the code of its lines. -/
theorem sameCode_structBlock {α : Type} (name : String) {items : List α} {f g : α → String}
    (each : ∀ item ∈ items, SameCode (f item) (g item)) :
    SameCode (structBlock name (items.map f)) (structBlock name (items.map g)) :=
  ((SameCode.line _).append (.join each)).append (.line _)

/-- The lines of a field have the code of those without its description. -/
theorem sameCode_fieldLines (field : GoField) :
    SameCode (fieldLines field) (fieldLines field.withoutDescription) := by
  have described : SameCode (descriptionBlock "\t" field.description)
      (descriptionBlock "\t" field.withoutDescription.description) :=
    ⟨[], hasCode_descriptionBlock (.inr rfl) _, hasCode_descriptionBlock (.inr rfl) _⟩
  exact described.append (.line _)

/-- An enumeration is whole lines. -/
theorem sameCode_enumBlock (classPrefix : Bool) (model : GoModel) :
    SameCode (enumBlock classPrefix model) (enumBlock classPrefix model) :=
  (((((SameCode.line _).append (.line _)).append (.line _)).append (.line _)).append
    (.join fun _ _ => .line _)).append (.line _)

/-- The declaration of a model has the code of the one without descriptions, whichever of the three
kinds it is. -/
theorem sameCode_declaration (classPrefix : Bool) (model : GoModel) :
    SameCode (declaration classPrefix model)
      (declaration classPrefix model.withoutDescriptions) := by
  have bare : declaration classPrefix model.withoutDescriptions =
      if model.isEnum then enumBlock classPrefix model
      else if model.oneOf.isEmpty && model.anyOf.isEmpty then
        structBlock model.name (model.fields.map fun field => fieldLines field.withoutDescription)
      else structBlock model.name (model.members.map memberLine) := by
    rw [declaration, GoModel.withoutDescriptions, List.map_map]
    rfl
  rw [declaration, bare]
  split
  · exact sameCode_enumBlock classPrefix model
  · split
    · exact sameCode_structBlock _ fun field _ => sameCode_fieldLines field
    · exact sameCode_structBlock _ fun _ _ => .line _

/-- The file of a model has the code of the one without descriptions. -/
theorem sameCode_render (packageName : String) (classPrefix : Bool) (model : GoModel) :
    SameCode (render packageName classPrefix model)
      (render packageName classPrefix model.withoutDescriptions) := by
  have separated : SameCode (if model.imports.isEmpty then "" else line "")
      (if model.imports.isEmpty then "" else line "") := by
    split
    · exact .empty
    · exact .line _
  have described : SameCode (descriptionBlock "" model.description)
      (descriptionBlock "" model.withoutDescriptions.description) :=
    ⟨[], hasCode_descriptionBlock (.inl rfl) _, hasCode_descriptionBlock (.inl rfl) _⟩
  exact (((((SameCode.line _).append (.line _)).append (sameCode_importBlock _)).append
    separated).append described).append (sameCode_declaration classPrefix model)

end ModelFile

namespace Generator

/-- The file that a generator with its own templates makes of a model has, whatever the descriptions
of the model and of its fields are, the same lines as the file of the model without descriptions,
once the comment lines are taken out of both. -/
theorem render_ignores_descriptions {generator : Generator}
    (shipped : generator.templates = .shipped) (model : GoModel) :
    ∃ text bare, generator.render model = .ok text ∧
      generator.render model.withoutDescriptions = .ok bare ∧
      codeLines text = codeLines bare := by
  refine ⟨_, _, ?_, ?_, (ModelFile.sameCode_render generator.settings.packageName.text
    generator.settings.enumClassPrefix.isOn model).codeLines_eq⟩
  · rw [render, shipped]
  · rw [render, shipped]

/-- A model with descriptions of several lines that hold declarations and marks. -/
def describedPet : GoModel where
  name := "Pet"
  fileName := "model_pet"
  description := "An animal.\nvar Injected = 1\n\n*/ type Other int"
  fields := [{
    name := "Id", baseName := "id", dataType := "int64", tag := "\x60json:\"id\"\x60"
    required := true, isNullable := false, isContainerLike := false, type := .ofName "int64"
    description := "The key.\r\nInjected int\n" }]

/-- Declarations in the descriptions of a model do not get into its code. -/
theorem described_declarations_ignored :
    (plain {}).templates = .shipped ∧
      ∃ text bare, (plain {}).render describedPet = .ok text ∧
        (plain {}).render describedPet.withoutDescriptions = .ok bare ∧
        codeLines text = codeLines bare :=
  ⟨rfl, render_ignores_descriptions rfl describedPet⟩

end Generator

end GoBindings
