import ComponentMarkup.Binding.Cursor
import ComponentMarkup.Request
import ComponentMarkup.Proofs.Document.Changes
import ComponentMarkup.Proofs.Document.WellFormed
import ComponentMarkup.Proofs.Annotated.Changes
import ComponentMarkup.Proofs.Annotated.Entry
import ComponentMarkup.Proofs.Annotated.Stripped
import ComponentMarkup.Proofs.Document.Split
import ComponentMarkup.Proofs.Annotated.Identify
import ComponentMarkup.Proofs.Annotated.Visit
import ComponentMarkup.Proofs.Annotated.Growth
import ComponentMarkup.Proofs.Annotated.Numbering
import ComponentMarkup.Proofs.Ordered
import ComponentMarkup.Proofs.Workspace.Run
import ComponentMarkup.Proofs.Annotated.File
import ComponentMarkup.Proofs.Workspace.Numbers
import ComponentMarkup.Proofs.Document.Rework
import ComponentMarkup.Proofs.Annotated.Sources
import ComponentMarkup.Proofs.Annotated.Flags
import ComponentMarkup.Proofs.Annotated.Written
import ComponentMarkup.Proofs.Annotated.ClosedForm
import ComponentMarkup.Proofs.Document.Markup
import ComponentMarkup.Proofs.Annotated.Located
import ComponentMarkup.Proofs.Workspace.AnnotatedOnce
import ComponentMarkup.Proofs.Annotated.Steady
import ComponentMarkup.Proofs.Annotated.Alike
import ComponentMarkup.Proofs.Annotated.Parallel
import ComponentMarkup.Proofs.Linking
import ComponentMarkup.Proofs.Workspace.Settled
import ComponentMarkup.Proofs.Declaration
import ComponentMarkup.Proofs.Workspace.Inserted
import ComponentMarkup.Proofs.Workspace.Interference
import ComponentMarkup.Proofs.Linking.Conflicts
import ComponentMarkup.Proofs.Linking.File
import ComponentMarkup.Proofs.Linking.Reports
import ComponentMarkup.Proofs.Workspace.Linked
import ComponentMarkup.Proofs.Workspace.Scopes
import ComponentMarkup.Proofs.Annotated.Marks
import ComponentMarkup.Proofs.Annotated.Roots
import ComponentMarkup.Proofs.Workspace.Roots
import ComponentMarkup.Proofs.Document.Carried
import ComponentMarkup.Proofs.Annotated.Reading
import ComponentMarkup.Proofs.Annotated.Lasting
import ComponentMarkup.Proofs.Annotated.Rows
import ComponentMarkup.Proofs.Annotated.Vacant
import ComponentMarkup.Proofs.Annotated.Mirror
import ComponentMarkup.Proofs.Annotated.Sourced
import ComponentMarkup.Proofs.Annotated.Correspondence
import ComponentMarkup.Proofs.Annotated.Frame
import ComponentMarkup.Proofs.Workspace.Mirrored
import ComponentMarkup.Proofs.Annotated.Abreast
import ComponentMarkup.Proofs.Annotated.Spelled
import ComponentMarkup.Proofs.Declaration.Wrapped
import ComponentMarkup.Proofs.Linking.Relocated
import ComponentMarkup.Proofs.Workspace.Respelled
import ComponentMarkup.Proofs.Workspace.Wrapped
import ComponentMarkup.Proofs.Text
import ComponentMarkup.Proofs.Binding.Segments
import ComponentMarkup.Proofs.Workspace.Session
import ComponentMarkup.Proofs.Annotated.Renumber
import ComponentMarkup.Proofs.Annotated.Renumbered
import ComponentMarkup.Proofs.Annotated.RenumberedWalk
import ComponentMarkup.Proofs.Annotated.RenumberedFile
import ComponentMarkup.Proofs.Workspace.Reordered
import ComponentMarkup.Proofs.Document.Ancestors
import ComponentMarkup.Proofs.Declaration.Selected
import ComponentMarkup.Proofs.Annotated.TextRows
import ComponentMarkup.Proofs.Annotated.Charged
import ComponentMarkup.Proofs.Annotated.Counted
import ComponentMarkup.Proofs.Annotated.Used
import ComponentMarkup.Proofs.Workspace.Used
import ComponentMarkup.Proofs.Binding.Words
import ComponentMarkup.Proofs.Annotated.Bearer
import ComponentMarkup.Proofs.Annotated.Installed
import ComponentMarkup.Proofs.Annotated.Stripping
import ComponentMarkup.Proofs.Annotated.Given
import ComponentMarkup.Proofs.Annotated.Stepwise
import ComponentMarkup.Proofs.Annotated.Shown
import ComponentMarkup.Proofs.Annotated.Conserved
import ComponentMarkup.Proofs.Document.Edits
import ComponentMarkup.Proofs.Document.Traversal
import ComponentMarkup.Proofs.Annotated.Stored
import ComponentMarkup.Proofs.Annotated.Doubled
import ComponentMarkup.Proofs.Annotated.Wins
import ComponentMarkup.Proofs.Path.Segments
import ComponentMarkup.Proofs.Declaration.Scripts
import ComponentMarkup.Proofs.Declaration.FirstScript
import ComponentMarkup.Proofs.Workspace.Siblings
import ComponentMarkup.Proofs.Html.Suffix
import ComponentMarkup.Proofs.Html.Search
import ComponentMarkup.Proofs.Html.Growth
import ComponentMarkup.Proofs.Html.Turns
import ComponentMarkup.Proofs.Html.Places
import ComponentMarkup.Proofs.Html.Offsets
import ComponentMarkup.Proofs.Annotated.Accepted
import ComponentMarkup.Proofs.Annotated.WrittenBack
import ComponentMarkup.Proofs.Annotated.Inputs
import ComponentMarkup.Proofs.Annotated.Radio
import ComponentMarkup.Proofs.Binding.Tokens
import ComponentMarkup.Proofs.Annotated.ClassTokens
import ComponentMarkup.Proofs.Annotated.Natives
import ComponentMarkup.Proofs.Annotated.Entering
import ComponentMarkup.Proofs.Annotated.Shapes
import ComponentMarkup.Proofs.Annotated.Iterated
import ComponentMarkup.Proofs.Annotated.Directives
import ComponentMarkup.Proofs.Annotated.Handlers
import ComponentMarkup.Proofs.Workspace.Resolved
import ComponentMarkup.Proofs.Script.Declared
import ComponentMarkup.Proofs.Binding.Cursor
import ComponentMarkup.Proofs.Document.Unambiguous
import ComponentMarkup.Proofs.Annotated.Descent
import ComponentMarkup.Proofs.Annotated.Contents
import ComponentMarkup.Proofs.Annotated.Choices
import ComponentMarkup.Proofs.Binding.Compaction
import ComponentMarkup.Proofs.Path.Location
