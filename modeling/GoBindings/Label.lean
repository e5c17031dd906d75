import GoBindings.Json.Display
import GoBindings.Json.Normal

/-!
# Labels

A label stands where a text belongs that a user may choose: a name, a path, a key, a command. Users
may give a value of any kind for it. It is kept as it was given, because it is saved and handed on
as such; generated code and messages show its text. The labels that rules compute are texts. Labels
are the same where the values given for them have one normal form, so a label that is a text is the
same only as that text.
-/

namespace GoBindings

/-- What stands where a text belongs. -/
structure Label where
  /-- The value that was given. -/
  given : Json
  deriving Repr

namespace Label

/-- The label that is a text. -/
def ofText (text : String) : Label := ⟨.string text⟩

instance : Coe String Label := ⟨ofText⟩

/-- The text that a label is, if it is one. -/
def asText? (label : Label) : Option String := label.given.text?

/-- Whether nothing was given. -/
def isBlank (label : Label) : Bool := label.given.isBlank

/-- The text that shows the label. -/
def text (label : Label) : String := label.given.shown

/-- The text of the label, and the empty text where nothing was given. -/
def content (label : Label) : String := if label.isBlank then "" else label.text

/-- A label that is a text changed into another text; any other label stays. -/
def mapText (f : String → String) (label : Label) : Label :=
  match label.asText? with
  | some text => ofText (f text)
  | none => label

instance : BEq Label := ⟨fun a b => a.given.normal == b.given.normal⟩

instance : EquivBEq Label where
  rfl {a} := BEq.rfl (a := a.given.normal)
  symm {a b} same := BEq.symm (a := a.given.normal) (b := b.given.normal) same
  trans {a b c} first second :=
    BEq.trans (a := a.given.normal) (b := b.given.normal) (c := c.given.normal) first second

/-- The order of listings: numbers by their values and texts by their code points. -/
def le (a b : Label) : Bool :=
  match a.given.normal.quotient?, b.given.normal.quotient? with
  | some (m, p), some (n, q) => m * q ≤ n * p
  | _, _ => a.text ≤ b.text

/-- A label that is a text is that text. -/
@[simp] theorem asText?_ofText (text : String) : (ofText text).asText? = some text := rfl

/-- A label that is a text is shown as it. -/
@[simp] theorem text_ofText (text : String) : (ofText text).text = text := rfl

/-- Labels that are texts are equal where the texts are. -/
theorem ofText_inj {a b : String} : ofText a = ofText b ↔ a = b := by
  constructor
  · exact congrArg text
  · exact congrArg ofText

/-- A label that is a text is changed as the text is. -/
@[simp] theorem mapText_ofText (f : String → String) (text : String) :
    (ofText text).mapText f = ofText (f text) := rfl

/-- Labels that are texts are the same where the texts are equal. -/
@[simp] theorem ofText_beq_ofText (a b : String) : (ofText a == ofText b) = (a == b) := by
  have forms : (ofText a == ofText b) = (Json.string a == Json.string b) := rfl
  rw [forms, Bool.eq_iff_iff]
  simp

/-- A label that is a text is the label of that text. -/
theorem eq_ofText_of_asText? {label : Label} {text : String} (isText : label.asText? = some text) :
    label = ofText text := by
  obtain ⟨given⟩ := label
  cases given with
  | string other =>
    cases isText
    rfl
  | _ => cases isText

/-- A label that is the same as a text is that text. -/
theorem beq_ofText_iff (label : Label) (text : String) :
    (label == .ofText text) = true ↔ label = .ofText text := by
  have forms : (label == .ofText text) = (label.given.normal == Json.string text) := rfl
  rw [forms, beq_iff_eq]
  obtain ⟨given⟩ := label
  rw [ofText, mk.injEq]
  cases given with
  | decimal value =>
    rw [Json.normal]
    cases value.whole? <;> simp
  | _ => simp [Json.normal]

/-- Labels that are the same are the same text, or none is one. -/
theorem asText?_congr {a b : Label} (same : a == b) : a.asText? = b.asText? := by
  cases left : a.asText? with
  | some text =>
    rw [eq_ofText_of_asText? left] at same
    rw [(beq_ofText_iff b text).1 (BEq.symm same), asText?_ofText]
  | none =>
    cases right : b.asText? with
    | none => rfl
    | some text =>
      rw [eq_ofText_of_asText? right, beq_ofText_iff] at same
      rw [same, asText?_ofText] at left
      cases left

end Label

/-- Labels as a list. -/
def Json.ofLabels (labels : List Label) : Json := .array (labels.map Label.given)

end GoBindings
