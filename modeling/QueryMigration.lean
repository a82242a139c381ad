import QueryMigration.Main
import QueryMigration.Proofs.Pass.LineEnd
import QueryMigration.Proofs.SourceFile.Outcome
import QueryMigration.Proofs.BooleanLiteral.Simultaneous
import QueryMigration.Proofs.Command.Outcome
import QueryMigration.Proofs.Command.Independence
import QueryMigration.Proofs.BooleanLiteral.Numeral
import QueryMigration.Proofs.DataCall.Placement
import QueryMigration.Proofs.Text.Tally
import QueryMigration.Proofs.Declaration.Completeness
import QueryMigration.Proofs.Pass.Decision
import QueryMigration.Proofs.Settings.Precedence
import QueryMigration.Proofs.Placeholder.Nested
import QueryMigration.Proofs.Terminal.Shown
import QueryMigration.Proofs.Terminal.Summary
import QueryMigration.Proofs.Command.Look
import QueryMigration.Proofs.Log.Line
import QueryMigration.Proofs.SourceFile.Message
import QueryMigration.Proofs.Command.Warning
