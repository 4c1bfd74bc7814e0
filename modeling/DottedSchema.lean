import DottedSchema.Main
import DottedSchema.Proofs.Addressing
import DottedSchema.Proofs.Artifact.Erasure
import DottedSchema.Proofs.Artifact.Grammar
import DottedSchema.Proofs.Artifact.Positions
import DottedSchema.Proofs.Assembly.Limit
import DottedSchema.Proofs.Assembly.Spacing
import DottedSchema.Proofs.Assembly.Spelling
import DottedSchema.Proofs.Classes.Flaws
import DottedSchema.Proofs.Classes.Separate
import DottedSchema.Proofs.Curation
import DottedSchema.Proofs.Field.Defects
import DottedSchema.Proofs.Field.Reached
import DottedSchema.Proofs.Generation
import DottedSchema.Proofs.Denial
import DottedSchema.Proofs.Artifact.Congruence
import DottedSchema.Proofs.Assembly.Parts
import DottedSchema.Proofs.Bookkeeping
import DottedSchema.Proofs.Modularity
import DottedSchema.Proofs.Curation.Entries
import DottedSchema.Proofs.Artifact.Descriptions
import DottedSchema.Proofs.Artifact.Leaves
import DottedSchema.Proofs.Classes.Shadowing
import DottedSchema.Proofs.Text.Docstring
import DottedSchema.Proofs.Artifact.Undeclared
import DottedSchema.Proofs.Assembly.Reports
import DottedSchema.Proofs.Classes.Naming
import DottedSchema.Proofs.Classes.Extension
import DottedSchema.Proofs.Classes.Reservation
