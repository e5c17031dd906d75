import GoBindings.Logging
import GoBindings.ModelWriter
import GoBindings.Naming.Resolve
import GoBindings.Proofs.Naming.Reservation
import GoBindings.Proofs.Runs.History
import GoBindings.Proofs.Runs.Order
import GoBindings.Registry
import GoBindings.Proofs.Naming.Spelling
import GoBindings.Proofs.Naming.ExtraWords
import GoBindings.Proofs.Naming.ModelFiles
import GoBindings.Proofs.Naming.OverrideKeys
import GoBindings.Proofs.Runs.Records
import GoBindings.Proofs.Runs.Writing
import GoBindings.Proofs.Imports
import GoBindings.Proofs.UnitImports
import GoBindings.Proofs.ImportHistories
import GoBindings.Proofs.Types.Qualifiers
import GoBindings.Proofs.Runs.ModelImports
import GoBindings.Proofs.Runs.NullMembers
import GoBindings.Proofs.Runs.Foresight
import GoBindings.Proofs.Runs.UnionFields
import GoBindings.Proofs.Files.Descriptions
import GoBindings.Proofs.Tags.Reading
import GoBindings.Proofs.Tags.Values
import GoBindings.Proofs.Tags.Directives
import GoBindings.Proofs.Literals
import GoBindings.Proofs.CommentDelimiters
import GoBindings.Proofs.Json.Tokens
import GoBindings.Proofs.Json.RoundTrip
import GoBindings.Proofs.Settings.SavedTables
import GoBindings.Proofs.Settings.Reload
import GoBindings.Proofs.Settings.Loading
import GoBindings.Proofs.Registrations
import GoBindings.Proofs.Settings.Precedence
import GoBindings.Proofs.Naming.Words
import GoBindings.Proofs.Naming.StableTypes
import GoBindings.Proofs.Naming.StableFields
import GoBindings.Proofs.Naming.Affixes
import GoBindings.Proofs.Naming.StableEnumerations
import GoBindings.Proofs.Naming.ExportedFields
import GoBindings.Proofs.Naming.StableFiles
import GoBindings.Proofs.Naming.TestFiles
import GoBindings.Proofs.Naming.Constants
import GoBindings.Proofs.Naming.StableConstants
import GoBindings.Proofs.Naming.NumberConstants
import GoBindings.Proofs.Naming.StableOperations
import GoBindings.Proofs.Naming.Escapes
import GoBindings.Proofs.Naming.RegularNames
import GoBindings.Proofs.Types.Metadata
import GoBindings.Proofs.Types.Trees
import GoBindings.Proofs.Types.FieldNames
import GoBindings.ImportHistory
import GoBindings.Proofs.Naming.Bodies
import GoBindings.Proofs.Naming.SnakeLaws
import GoBindings.Proofs.Naming.Announcements
import GoBindings.Proofs.Naming.FieldCollisions
import GoBindings.Proofs.Runs.StructFields
