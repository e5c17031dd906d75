import GoBindings.Generator
import GoBindings.Proofs.Naming.StableTypes
import GoBindings.Proofs.Types.Trees

/-!
# Names of fields for types

A field of a union is named after its type. Such a name leaves out pointers and spells out brackets
and qualifiers, so that different types may get one name. Here the name is computed along the tree
of the type. The main statement tells the types that share a field: those that agree level by level
but for pointers, and named types that have the name of the field for another type.
-/

namespace GoBindings

/-! ## Camel case behind a first part -/

namespace Chars

/-- The camel case of a text with its first part as it is. -/
def camelBehind (s : List Char) : List Char :=
  match segments '_' s with
  | [] => []
  | first :: rest => first ++ rest.flatMap capitalize

/-- One part is kept as it is. -/
theorem camelBehind_of_not_mem {s : List Char} (clean : '_' ∉ s) : camelBehind s = s := by
  rw [camelBehind, segments_of_not_mem clean]
  exact List.append_nil s

/-- All that stands behind the first part is in camel case. -/
theorem camelBehind_append_underscore {a : List Char} (clean : '_' ∉ a) (b : List Char) :
    camelBehind (a ++ '_' :: b) = a ++ camel b := by
  rw [camelBehind, segments_append, segments_of_not_mem clean]
  rfl

/-- A start without underscores belongs to the first part. -/
theorem camelBehind_append {a : List Char} (clean : '_' ∉ a) (b : List Char) :
    camelBehind (a ++ b) = a ++ camelBehind b := by
  induction a with
  | nil => rfl
  | cons c rest ih =>
    obtain ⟨other, later⟩ := not_or.1 (mt List.mem_cons.2 clean)
    have inner := ih later
    rw [camelBehind] at inner
    rw [List.cons_append, camelBehind, segments, if_neg (Ne.symm other)]
    cases parts : segments '_' (rest ++ b) with
    | nil => exact absurd parts (segments_ne_nil '_' _)
    | cons first more =>
      rw [parts] at inner
      exact congrArg (c :: ·) inner

/-- The camel case of a text that begins a part has a capital in front. -/
theorem camel_eq_capitalize {c : Char} (other : c ≠ '_') (rest : List Char) :
    camel (c :: rest) = capitalize (camelBehind (c :: rest)) := by
  rw [camel, camelBehind, segments, if_neg other]
  cases parts : segments '_' rest with
  | nil => exact absurd parts (segments_ne_nil '_' rest)
  | cons first more => exact (capitalize_append (List.cons_ne_nil c first) _).symm

/-- A letter is no underscore. -/
theorem ne_underscore_of_isAlpha {c : Char} (letter : c.isAlpha = true) : c ≠ '_' := by
  rintro rfl
  cases letter

/-- The capital form of a letter is a capital. -/
theorem isUpper_toUpper {c : Char} (ascii : c.toNat < 0x80) (letter : c.isAlpha = true) :
    c.toUpper.isUpper = true :=
  ascii_induction (P := fun c => c.isAlpha = true → c.toUpper.isUpper = true) (by decide) ascii
    letter

/-- A text that begins with a small letter can be told from its capitalised form. -/
theorem capitalize_inj {s t : List Char} (left : s.head?.any Char.isLower = true)
    (right : t.head?.any Char.isLower = true) (same : capitalize s = capitalize t) : s = t := by
  have small (c : Char) (lower : c.isLower = true) : isSmall c = true :=
    Bool.or_eq_true_iff.2 (.inl lower)
  have ascii (c : Char) (lower : c.isLower = true) : c.toNat < 0x80 :=
    ascii_of_isBodyChar (isBodyChar_of_isSmall (small c lower))
  cases s with
  | nil => cases left
  | cons c rest =>
    cases t with
    | nil => cases right
    | cons d more =>
      rw [capitalize_of_ascii rest (ascii c left), capitalize_of_ascii more (ascii d right)] at same
      obtain ⟨first, later⟩ := List.cons.inj same
      have lowered := congrArg Char.toLower first
      rw [toLower_toUpper (ascii c left), toLower_toUpper (ascii d right),
        (toLower_of_isSmall (small c left)).2, (toLower_of_isSmall (small d right)).2] at lowered
      rw [lowered, later]

/-- No text begins both with a small letter and with a capital. -/
theorem not_startsUpper {s : List Char} (small : s.head?.any Char.isLower = true) :
    ¬ s.head?.any Char.isUpper = true := by
  cases s with
  | nil => cases small
  | cons c rest =>
    have lower : isSmall c = true := Bool.or_eq_true_iff.2 (.inl small)
    exact Bool.eq_false_iff.1 (toLower_of_isSmall lower).1

/-- A text begins as its beginning does. -/
theorem any_head?_of_isPrefixOf {s t : List Char} {test : Char → Bool}
    (begins : s.isPrefixOf t = true) (starts : s.head?.any test = true) :
    t.head?.any test = true := by
  obtain ⟨more, rfl⟩ := List.isPrefixOf_iff_prefix.1 begins
  cases s with
  | nil => cases starts
  | cons c rest => exact starts

end Chars

namespace TypeTree

/-! ## Names of fields -/

/-- What a type contributes to the name of a field, before the first letter is capitalised. -/
def fieldStem : TypeTree → String
  | any => "interface"
  | leaf name => String.ofList (Chars.camelBehind (sanitize name).toList)
  | slice _ element => "arrayOf" ++ Text.capitalize element.fieldStem
  | map value => "mapString" ++ value.fieldStem

/-- The name of the field for a type. -/
def fieldName (tree : TypeTree) : String := Text.capitalize tree.fieldStem

/-- The member of a union that has a type. -/
def unionMember (tree : TypeTree) : UnionMember where
  fieldName := tree.fieldName
  declaration := tree.spelling

/-- The declaration of a type without pointers, and with its brackets and points as words. -/
def fieldBody : TypeTree → String
  | any => "interface"
  | leaf name => sanitize name
  | slice _ element => "array_of_" ++ element.fieldBody
  | map value => "map_string" ++ value.fieldBody

/-- A tree whose leaves are types: those of tokens, and models. -/
def HasTypeNames : TypeTree → Prop
  | any => True
  | leaf name => IsTypeName name ∨ name ∈ builtinDeclarations ∧ IsLeafName name
  | slice _ element => element.HasTypeNames
  | map value => value.HasTypeNames

/-- Types are names. -/
theorem HasTypeNames.hasLeafNames {tree : TypeTree} (types : tree.HasTypeNames) :
    tree.HasLeafNames := by
  induction tree with
  | any => trivial
  | leaf name => exact types.elim (fun type c member => .inl (type.isBody c member)) And.right
  | slice nullable element ih => exact ih types
  | map value ih => exact ih types

/-- The tree of the declaration of a token has types at its leaves. -/
theorem hasTypeNames_ofDeclaration {name : String} (member : name ∈ builtinDeclarations) :
    (ofDeclaration name).HasTypeNames := by
  rw [ofDeclaration]
  split
  · trivial
  · rename_i named
    split
    · trivial
    · rename_i specific
      exact .inr ⟨member, isLeafName_of_mem name member named specific⟩

/-! ## Words of declarations -/

/-- Without an opening bracket there are no slices to spell out. -/
theorem spellSlices_of_not_mem {s : List Char} (clean : '[' ∉ s) :
    unionFieldName.spellSlices s = s := by
  fun_induction unionFieldName.spellSlices s with
  | case1 rest ih => exact absurd List.mem_cons_self clean
  | case2 c rest other ih => rw [ih fun member => clean (List.mem_cons_of_mem c member)]
  | case3 => rfl

/-- The mark of a list is spelt out. -/
theorem spellSlices_slice (s : List Char) : unionFieldName.spellSlices ('[' :: ']' :: s) =
    "array_of_".toList ++ unionFieldName.spellSlices s := rfl

/-- The mark of a map has no empty brackets. -/
theorem spellSlices_map (s : List Char) : unionFieldName.spellSlices ("map[string]".toList ++ s) =
    "map[string]".toList ++ unionFieldName.spellSlices s := rfl

/-- A name keeps all its characters where stars are dropped. -/
theorem filter_star_of_isLeafName {name : String} (isName : IsLeafName name) :
    name.toList.filter (· != '*') = name.toList := by
  refine List.filter_eq_self.2 fun c member => bne_iff_ne.2 ?_
  rintro rfl
  exact (isName '*' member).elim (by decide) (by decide)

/-- The marks of a declaration are spelt out along its tree. -/
theorem sanitize_spelling {tree : TypeTree} (names : tree.HasLeafNames) :
    Chars.sanitize (unionFieldName.spellSlices (tree.spelling.toList.filter (· != '*'))) =
      tree.fieldBody.toList := by
  induction tree with
  | any => decide
  | leaf name =>
    have unmarked : '[' ∉ name.toList := fun member =>
      (names '[' member).elim (by decide) (by decide)
    rw [spelling, filter_star_of_isLeafName names, spellSlices_of_not_mem unmarked, fieldBody,
      toList_sanitize]
  | slice nullable element ih =>
    have chars : (slice nullable element).spelling.toList.filter (· != '*') =
        '[' :: ']' :: element.spelling.toList.filter (· != '*') := by
      cases nullable <;> simp [spelling]
    rw [chars, spellSlices_slice, Chars.sanitize_append_of_apart (.inl (by decide)), ih names,
      fieldBody, String.toList_append]
    rfl
  | map value ih =>
    have chars : (map value).spelling.toList.filter (· != '*') =
        "map[string]".toList ++ value.spelling.toList.filter (· != '*') := by
      simp [spelling]
    rw [chars, spellSlices_map, Chars.sanitize_append_of_apart (.inl (by decide)), ih names,
      fieldBody, String.toList_append]
    rfl

/-! ## Leaves -/

/-- What lists, maps and values of any type add to names of fields in front. -/
def stemMarks : List String := ["interface", "arrayOf", "mapString"]

/-- What a text begins with of these. -/
def markOfStem? (stem : List Char) : Option String :=
  stemMarks.find? fun mark => mark.toList.isPrefixOf stem

/-- The type of a token by what it adds to names of fields. -/
def builtinOfStem (stem : String) : String :=
  if stem = "timeTime" then "time.Time"
  else if stem = "ioReadCloser" then "io.ReadCloser"
  else stem

/-- A leaf as the types of tokens are. -/
structure IsTokenLeaf (name : String) : Prop where
  /-- Its words begin with a small letter. -/
  body : (leaf name).fieldBody.toList.head?.any Char.isLower = true
  /-- What it adds to names begins with a small letter. -/
  stem : (leaf name).fieldStem.toList.head?.any Char.isLower = true
  /-- What it adds to names tells which type it is. -/
  told : builtinOfStem (leaf name).fieldStem = name
  /-- What it adds to names begins with no mark. -/
  unmarked : markOfStem? (leaf name).fieldStem.toList = none

/-- The types of tokens are such leaves. -/
theorem isTokenLeaf_of_mem {name : String} (listed : name ∈ builtinDeclarations)
    (isName : IsLeafName name) : IsTokenLeaf name := by
  have checked : ∀ name ∈ builtinDeclarations, IsLeafName name →
      (leaf name).fieldBody.toList.head?.any Char.isLower = true ∧
      (leaf name).fieldStem.toList.head?.any Char.isLower = true ∧
      builtinOfStem (leaf name).fieldStem = name ∧
      markOfStem? (leaf name).fieldStem.toList = none := by decide +kernel
  obtain ⟨body, stem, told, unmarked⟩ := checked name listed isName
  exact ⟨body, stem, told, unmarked⟩

/-- A leaf that is the name of a model adds that name. -/
theorem fieldStem_of_isTypeName {name : String} (type : IsTypeName name) :
    (leaf name).fieldStem = name := by
  rw [fieldStem, toList_sanitize, Chars.sanitize_of_isBodyChar type.isBody,
    Chars.camelBehind_of_not_mem type.underscore_not_mem, String.ofList_toList]

/-- A field for a model is named as the model. -/
theorem fieldName_of_isTypeName {name : String} (type : IsTypeName name) :
    (leaf name).fieldName = name := by
  obtain ⟨c, rest, chars, capital, -⟩ := type.eq_cons
  have ascii := Chars.ascii_of_isBodyChar (Chars.isBodyChar_of_isUpper capital).1
  apply String.toList_inj.1
  rw [fieldName, fieldStem_of_isTypeName type, Text.toList_capitalize, chars,
    Chars.capitalize_of_ascii rest ascii, Chars.toUpper_of_isUpper ascii capital]

/-! ## Fields for declarations -/

/-- The words of a declaration begin with a letter. -/
theorem fieldBody_eq_cons {tree : TypeTree} (types : tree.HasTypeNames) :
    ∃ c rest, tree.fieldBody.toList = c :: rest ∧ c.isAlpha = true := by
  cases tree with
  | any => exact ⟨_, _, rfl, rfl⟩
  | leaf name =>
    rcases types with type | ⟨listed, isName⟩
    · obtain ⟨c, rest, chars, capital, -⟩ := type.eq_cons
      refine ⟨c, rest, ?_, by rw [Chars.isAlpha_eq, capital, Bool.true_or]⟩
      rw [fieldBody, toList_sanitize, Chars.sanitize_of_isBodyChar type.isBody, chars]
    · have small := (isTokenLeaf_of_mem listed isName).body
      cases chars : (leaf name).fieldBody.toList with
      | nil => rw [chars] at small; cases small
      | cons c rest =>
        rw [chars] at small
        have lower : c.isLower = true := small
        exact ⟨c, rest, rfl, by rw [Chars.isAlpha_eq, lower, Bool.or_true]⟩
  | slice nullable element =>
    rw [fieldBody, String.toList_append]
    exact ⟨_, _, rfl, rfl⟩
  | map value =>
    rw [fieldBody, String.toList_append]
    exact ⟨_, _, rfl, rfl⟩

/-- The camel case of the words of a declaration is that behind the first with a capital in
front. -/
theorem camel_eq_capitalize_camelBehind {tree : TypeTree} (types : tree.HasTypeNames) :
    Chars.camel tree.fieldBody.toList =
      Chars.capitalize (Chars.camelBehind tree.fieldBody.toList) := by
  obtain ⟨c, rest, chars, letter⟩ := fieldBody_eq_cons types
  rw [chars, Chars.camel_eq_capitalize (Chars.ne_underscore_of_isAlpha letter)]

/-- What a type adds to names is the camel case of its words behind the first. No underscore stands
behind the `string` of a map, so the words of its values begin inside that part. -/
theorem camelBehind_fieldBody {tree : TypeTree} (types : tree.HasTypeNames) :
    Chars.camelBehind tree.fieldBody.toList = tree.fieldStem.toList := by
  induction tree with
  | any => decide
  | leaf name => rw [fieldBody, fieldStem, String.toList_ofList]
  | slice nullable element ih =>
    have inner : element.HasTypeNames := types
    have words : (slice nullable element).fieldBody.toList =
        "array".toList ++ '_' :: ("of".toList ++ '_' :: element.fieldBody.toList) := by
      rw [fieldBody, String.toList_append]
      rfl
    rw [words, Chars.camelBehind_append_underscore (by decide), Chars.camel_append_underscore,
      camel_eq_capitalize_camelBehind inner, ih inner, fieldStem, String.toList_append,
      Text.toList_capitalize]
    rfl
  | map value ih =>
    have words : (map value).fieldBody.toList =
        "map".toList ++ '_' :: ("string".toList ++ value.fieldBody.toList) := by
      rw [fieldBody, String.toList_append]
      rfl
    have second : Chars.camel ("string".toList ++ value.fieldBody.toList) =
        Chars.capitalize ("string".toList ++ value.fieldStem.toList) := by
      rw [← ih types, ← Chars.camelBehind_append (by decide)]
      exact Chars.camel_eq_capitalize (by decide) _
    rw [words, Chars.camelBehind_append_underscore (by decide), second,
      Chars.capitalize_append (by decide), fieldStem, String.toList_append]
    rfl

/-- The name of the field for a type is the camel case of its words. -/
theorem camel_fieldBody {tree : TypeTree} (types : tree.HasTypeNames) :
    camel tree.fieldBody = tree.fieldName := by
  apply String.toList_inj.1
  rw [toList_camel, camel_eq_capitalize_camelBehind types, camelBehind_fieldBody types, fieldName,
    Text.toList_capitalize]

/-- The field for a declaration is that for its tree. -/
theorem unionFieldName_spelling {tree : TypeTree} (types : tree.HasTypeNames) :
    unionFieldName tree.spelling = tree.fieldName := by
  have body : sanitize (String.ofList (unionFieldName.spellSlices
      (tree.spelling.toList.filter (· != '*')))) = tree.fieldBody := by
    apply String.toList_inj.1
    rw [toList_sanitize, String.toList_ofList, sanitize_spelling types.hasLeafNames]
  rw [unionFieldName, body, camel_fieldBody types]

/-- The name of the field for a type is one that types have. -/
theorem isTypeName_fieldName {tree : TypeTree} (types : tree.HasTypeNames) :
    IsTypeName tree.fieldName := by
  have isBody : Chars.IsBody tree.fieldBody.toList :=
    sanitize_spelling types.hasLeafNames ▸ Chars.isBody_sanitize _
  obtain ⟨c, rest, chars, letter⟩ := fieldBody_eq_cons types
  have other := Chars.ne_underscore_of_isAlpha letter
  rw [← camel_fieldBody types, IsTypeName, toList_camel]
  refine Chars.isWord_of_startsCapital ?_ fun d member =>
    Chars.isAlphanum_of_mem_camel isBody member
  rw [chars] at isBody ⊢
  have ascii := Chars.ascii_of_isBodyChar (isBody c List.mem_cons_self)
  obtain ⟨tail, begins⟩ := Chars.camel_cons ascii other rest
  rw [begins]
  exact Chars.isUpper_toUpper ascii letter

/-! ## Types that share a field -/

/-- A named type, such as the model `ArrayOfPet`, whose name is that of the field for another type,
such as a list of `Pet`. -/
def Names (tree other : TypeTree) : Prop := tree = .leaf other.fieldName

instance (tree other : TypeTree) : Decidable (tree.Names other) :=
  inferInstanceAs (Decidable (_ = _))

/-- Types that agree level by level, but that lists may hold pointers or not, and that where one
list holds a named type the other may hold a type whose field has that name. -/
def Alike : TypeTree → TypeTree → Prop
  | any, any => True
  | leaf name, leaf other => name = other
  | slice _ element, slice _ other =>
    element.Alike other ∨ element.Names other ∨ other.Names element
  | map value, map other => value.Alike other
  | _, _ => False

instance decidableAlike : ∀ tree other : TypeTree, Decidable (tree.Alike other)
  | any, any => isTrue trivial
  | leaf name, leaf other => inferInstanceAs (Decidable (name = other))
  | slice _ element, slice _ other =>
    have := decidableAlike element other
    inferInstanceAs (Decidable (element.Alike other ∨ element.Names other ∨ other.Names element))
  | map value, map other => decidableAlike value other
  | any, leaf _ | any, slice _ _ | any, map _ | leaf _, any | leaf _, slice _ _ | leaf _, map _
  | slice _ _, any | slice _ _, leaf _ | slice _ _, map _ | map _, any | map _, leaf _
  | map _, slice _ _ => isFalse id

/-- Types that are alike, or one of which is a named type whose name the field for the other has. -/
def SharesField (tree other : TypeTree) : Prop :=
  tree.Alike other ∨ tree.Names other ∨ other.Names tree

instance (tree other : TypeTree) : Decidable (tree.SharesField other) :=
  inferInstanceAs (Decidable (_ ∨ _))

/-- What a type adds to names begins with a small letter, or the type is a model. -/
theorem fieldStem_cases {tree : TypeTree} (types : tree.HasTypeNames) :
    tree.fieldStem.toList.head?.any Char.isLower = true ∨
      ∃ name, IsTypeName name ∧ tree = leaf name := by
  cases tree with
  | any => exact .inl rfl
  | leaf name =>
    rcases types with type | ⟨listed, isName⟩
    · exact .inr ⟨name, type, rfl⟩
    · exact .inl (isTokenLeaf_of_mem listed isName).stem
  | slice nullable element =>
    rw [fieldStem, String.toList_append]
    exact .inl rfl
  | map value =>
    rw [fieldStem, String.toList_append]
    exact .inl rfl

/-- Fields have one name where the types add the same to names, or where one type is a model of that
name. -/
theorem fieldName_eq_iff {tree other : TypeTree} (left : tree.HasTypeNames)
    (right : other.HasTypeNames) : tree.fieldName = other.fieldName ↔
      tree.fieldStem = other.fieldStem ∨ tree.Names other ∨ other.Names tree := by
  constructor
  · intro same
    rcases fieldStem_cases left with small | ⟨name, type, rfl⟩
    · rcases fieldStem_cases right with further | ⟨name, type, rfl⟩
      · refine .inl (String.toList_inj.1 (Chars.capitalize_inj small further ?_))
        rw [← Text.toList_capitalize, ← Text.toList_capitalize]
        exact congrArg String.toList same
      · rw [fieldName_of_isTypeName type] at same
        exact .inr (.inr (congrArg leaf same.symm))
    · rw [fieldName_of_isTypeName type] at same
      exact .inr (.inl (congrArg leaf same))
  · rintro (same | rfl | rfl)
    · rw [fieldName, fieldName, same]
    · exact fieldName_of_isTypeName (isTypeName_fieldName right)
    · exact (fieldName_of_isTypeName (isTypeName_fieldName left)).symm

/-- What a type adds in front of what it holds, if it is no name. -/
def stemMark? : TypeTree → Option String
  | any => some "interface"
  | leaf _ => none
  | slice _ _ => some "arrayOf"
  | map _ => some "mapString"

/-- What kind of type it is can be told from what it adds to names. -/
theorem markOfStem?_fieldStem {tree : TypeTree} (types : tree.HasTypeNames) :
    markOfStem? tree.fieldStem.toList = tree.stemMark? := by
  cases tree with
  | any => rfl
  | leaf name =>
    rcases types with type | ⟨listed, isName⟩
    · have small : ∀ mark ∈ stemMarks, mark.toList.head?.any Char.isLower = true := by decide
      rw [fieldStem_of_isTypeName type]
      refine List.find?_eq_none.2 fun mark listed begins => ?_
      have start := Chars.any_head?_of_isPrefixOf begins (small mark listed)
      exact Chars.not_startsUpper start type.1
    · exact (isTokenLeaf_of_mem listed isName).unmarked
  | slice nullable element =>
    rw [fieldStem, String.toList_append]
    rfl
  | map value =>
    rw [fieldStem, String.toList_append]
    rfl

/-- Leaves that add the same are one. -/
theorem eq_of_fieldStem_leaf {name other : String} (left : (leaf name).HasTypeNames)
    (right : (leaf other).HasTypeNames)
    (same : (leaf name).fieldStem = (leaf other).fieldStem) : name = other := by
  rcases left with type | ⟨listed, isName⟩
  · rcases right with further | ⟨listed, isName⟩
    · rwa [fieldStem_of_isTypeName type, fieldStem_of_isTypeName further] at same
    · have small := (isTokenLeaf_of_mem listed isName).stem
      rw [← same, fieldStem_of_isTypeName type] at small
      exact absurd type.1 (Chars.not_startsUpper small)
  · rcases right with further | ⟨listed', isName'⟩
    · have small := (isTokenLeaf_of_mem listed isName).stem
      rw [same, fieldStem_of_isTypeName further] at small
      exact absurd further.1 (Chars.not_startsUpper small)
    · rw [← (isTokenLeaf_of_mem listed isName).told, same,
        (isTokenLeaf_of_mem listed' isName').told]

/-- Types of different kinds add different texts to names. -/
theorem fieldStem_ne {tree other : TypeTree} (left : tree.HasTypeNames)
    (right : other.HasTypeNames) (apart : tree.stemMark? ≠ other.stemMark?) :
    tree.fieldStem ≠ other.fieldStem := by
  intro same
  rw [← markOfStem?_fieldStem left, same, markOfStem?_fieldStem right] at apart
  exact apart rfl

/-- Types add the same to names where they are alike: types of one kind are compared by what they
hold, all others differ in their marks. -/
theorem fieldStem_eq_iff {tree other : TypeTree} (left : tree.HasTypeNames)
    (right : other.HasTypeNames) : tree.fieldStem = other.fieldStem ↔ tree.Alike other := by
  induction tree generalizing other with
  | any =>
    cases other with
    | any => exact iff_of_true rfl trivial
    | _ => exact iff_of_false (fieldStem_ne left right (by simp [stemMark?])) id
  | leaf name =>
    cases other with
    | leaf further =>
      exact ⟨eq_of_fieldStem_leaf left right, fun same => congrArg (fieldStem ∘ leaf) same⟩
    | _ => exact iff_of_false (fieldStem_ne left right (by simp [stemMark?])) id
  | slice nullable element ih =>
    cases other with
    | slice further inner =>
      have here : element.HasTypeNames := left
      have there : inner.HasTypeNames := right
      have elements : element.fieldName = inner.fieldName ↔
          element.Alike inner ∨ element.Names inner ∨ inner.Names element := by
        rw [fieldName_eq_iff here there, ih here there]
      rw [Alike, ← elements, fieldStem, fieldStem, String.append_right_inj]
      rfl
    | _ => exact iff_of_false (fieldStem_ne left right (by simp [stemMark?])) id
  | map value ih =>
    cases other with
    | map further =>
      have values : value.fieldStem = further.fieldStem ↔ value.Alike further := ih left right
      rw [Alike, ← values, fieldStem, fieldStem, String.append_right_inj]
    | _ => exact iff_of_false (fieldStem_ne left right (by simp [stemMark?])) id

/-- Fields for two types have one name where the types share a field. -/
theorem fieldName_eq_iff_sharesField {tree other : TypeTree} (left : tree.HasTypeNames)
    (right : other.HasTypeNames) : tree.fieldName = other.fieldName ↔ tree.SharesField other := by
  rw [fieldName_eq_iff left right, fieldStem_eq_iff left right]
  rfl

/-- A list of pets shares a field with one of pointers and with a model that is named like a list,
also inside lists, but a map of lists does not share one with a map of such models. -/
example :
    let pets := slice false (leaf "Pet")
    pets.SharesField (slice true (leaf "Pet")) ∧ pets.SharesField (leaf "ArrayOfPet") ∧
      (slice true pets).SharesField (slice false (leaf "ArrayOfPet")) ∧
      ¬ (map pets).SharesField (map (leaf "ArrayOfPet")) := by decide

end TypeTree

end GoBindings
