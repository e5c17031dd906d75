import GoBindings.Comment
import GoBindings.Naming.CaseStyle
import GoBindings.Table

/-!
# Text templates

An engine holds templates by name. The language in which they are written is not its own: the
language reads a text as a template and fills a template in, or says why it does not. The engine
tells it how to read and which filters there are, and reports what it says with the name of the
template.
-/

namespace GoBindings

/-- A change of a value on its way into the text. -/
inductive TemplateFilter where
  | snakeCase
  | camelCase
  | pascalCase
  | comment
  deriving DecidableEq, Repr

/-- The changed value. Only comment lines have a mark. -/
def TemplateFilter.apply (filter : TemplateFilter) (value : String)
    (mark : String := commentMark) : String :=
  match filter with
  | .snakeCase => CaseStyle.snake.convert value
  | .camelCase => CaseStyle.camel.convert value
  | .pascalCase => CaseStyle.pascal.convert value
  | .comment => commentLines mark value

/-- How a language is to read templates. -/
structure TemplateRules where
  /-- Whether values are escaped as markup. -/
  escapesMarkup : Bool
  /-- Whether a variable without a value is a mistake. -/
  refusesUndefined : Bool
  /-- Whether a line end right behind a statement is left out. -/
  trimsBlocks : Bool
  /-- Whether the blanks of a line before a statement are left out. -/
  stripsBlocks : Bool
  /-- Whether a last line end stays. -/
  keepsLastLineEnd : Bool
  /-- The filters by their spelling. -/
  filters : Table String TemplateFilter

/-- The rules for generated code. It is no markup, so struct tags keep their quotation marks. -/
def TemplateRules.code : TemplateRules where
  escapesMarkup := false
  refusesUndefined := true
  trimsBlocks := true
  stripsBlocks := true
  keepsLastLineEnd := true
  filters := Table.ofList
    [("snake_case", .snakeCase), ("camel_case", .camelCase), ("pascal_case", .pascalCase),
     ("comment", .comment)]

/-- Templates by name, from a directory of files or from memory. -/
inductive TemplateStore where
  /-- Templates of a directory. -/
  | files (templates : Table String String)
  /-- Templates that were added one by one. -/
  | memory (templates : Table String String)

namespace TemplateStore

/-- The store over a directory, or in memory where there is none. -/
def ofDirectory : Option (Table String String) → TemplateStore
  | some templates => .files templates
  | none => .memory Table.empty

/-- The text of the template of a name. -/
def find? (store : TemplateStore) (name : String) : Option String :=
  match store with
  | .files templates => templates.find? name
  | .memory templates => templates.find? name

/-- The store with a template added. The first one takes the place of all files. -/
def add (store : TemplateStore) (name text : String) : TemplateStore :=
  match store with
  | .files _ => .memory (Table.empty.insert name text)
  | .memory templates => .memory (templates.insert name text)

end TemplateStore

/-- A template that was read. It gives a text for a context, or the reason why there is none, and
may take in other templates by their names. -/
abbrev Template (Context : Type) := TemplateStore → Context → Except String String

/-- A language of templates. -/
structure TemplateLanguage (Context : Type) where
  /-- The template that a text is, or the reason why it is none. -/
  read : TemplateRules → String → Except String (Template Context)
  /-- The reason where a store has no template of a name. -/
  missing : TemplateStore → String → String

/-- A template without text. -/
structure TemplateError where
  /-- The name of the template, where it has one. -/
  template : Option String
  /-- What the language says. -/
  reason : String
  deriving DecidableEq, Repr

/-- The wording of the failure. -/
def TemplateError.message (error : TemplateError) : String :=
  "Failed to render template " ++ error.template.getD "string" ++ ": " ++ error.reason

/-- Templates together with their language. -/
structure TemplateEngine (Context : Type) where
  /-- The language. -/
  language : TemplateLanguage Context
  /-- The templates. -/
  store : TemplateStore

namespace TemplateEngine

variable {Context : Type}

/-- The template that a text is. -/
def read (engine : TemplateEngine Context) (text : String) : Except String (Template Context) :=
  engine.language.read .code text

/-- The template of a name. -/
def load (engine : TemplateEngine Context) (name : String) : Except String (Template Context) :=
  match engine.store.find? name with
  | some text => engine.read text
  | none => .error (engine.language.missing engine.store name)

/-- Whether the template of a name can be loaded. -/
def contains (engine : TemplateEngine Context) (name : String) : Bool := (engine.load name).isOk

/-- The engine with a template added. -/
def add (engine : TemplateEngine Context) (name text : String) : TemplateEngine Context :=
  { engine with store := engine.store.add name text }

/-- The text that the template of a name gives for a context. -/
def render (engine : TemplateEngine Context) (name : String) (context : Context) :
    Except TemplateError String :=
  (engine.load name >>= (· engine.store context)).mapError (⟨some name, ·⟩)

/-- The text that a template without a name gives for a context. -/
def renderText (engine : TemplateEngine Context) (text : String) (context : Context) :
    Except TemplateError String :=
  (engine.read text >>= (· engine.store context)).mapError (⟨none, ·⟩)

end TemplateEngine

end GoBindings
