import MixinExterns.Externs.Options.Decode
import MixinExterns.Main
import MixinExterns.Proofs.Config.Overrides
import MixinExterns.Proofs.Dump.Edits
import MixinExterns.Proofs.Externs.Decoded
import MixinExterns.Proofs.Externs.Interface
import MixinExterns.Proofs.Externs.Pruning
import MixinExterns.Proofs.Run.AllOrNothing
import MixinExterns.Proofs.Externs.OptionEdits
import MixinExterns.Proofs.Dump.Insertions
import MixinExterns.Proofs.Config.Partition
import MixinExterns.Proofs.CommandLine.Verbosity
import MixinExterns.Proofs.Run.Verbosity
import MixinExterns.Proofs.Externs.Accounting
import MixinExterns.Proofs.Externs.Nesting
import MixinExterns.Proofs.Externs.Annotations
import MixinExterns.Proofs.CommandLine.Writing
import MixinExterns.Proofs.Dump.Respelling
import MixinExterns.Proofs.Config.Agreement
import MixinExterns.Proofs.Externs.TestPaths
import MixinExterns.Proofs.Dump.Wrapping
import MixinExterns.Proofs.Dump.Reports
