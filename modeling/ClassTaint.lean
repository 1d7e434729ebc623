import ClassTaint.Session
import ClassTaint.Proofs.Summary.Parts
import ClassTaint.Proofs.Summary.Form
import ClassTaint.Proofs.Descriptor.Grammar
import ClassTaint.Proofs.Descriptor.Extent
import ClassTaint.Proofs.Descriptor.Spelling
import ClassTaint.Proofs.Descriptor.Respelling
import ClassTaint.Proofs.Config.Loading
import ClassTaint.Proofs.Config.Grammar
import ClassTaint.Proofs.Table.Update
import ClassTaint.Proofs.Catalog.Entry
import ClassTaint.Proofs.Catalog.Form
import ClassTaint.Proofs.Catalog.Storing
import ClassTaint.Proofs.Catalog.LastEntry
import ClassTaint.Proofs.Catalog.Strictness
import ClassTaint.Proofs.Catalog.Lookup
import ClassTaint.Proofs.Catalog.Accounting
import ClassTaint.Proofs.Catalog.Lines
import ClassTaint.Proofs.Enumeration.Comparison
import ClassTaint.Proofs.Config.Resolution
import ClassTaint.Proofs.Config.Equality
import ClassTaint.Proofs.Session.Filling
import ClassTaint.Proofs.Session.Run
import ClassTaint.Proofs.Session.Identity
import ClassTaint.Proofs.Session.Reports
import ClassTaint.Proofs.Yaml.Rule.Outward
import ClassTaint.Proofs.Yaml.Scalar.Word
import ClassTaint.Proofs.Yaml.Token.Nested
import ClassTaint.Proofs.Yaml.Node.Nested
import ClassTaint.Proofs.Yaml.Document.Nested
import ClassTaint.Proofs.Catalog.Written
import ClassTaint.Proofs.Yaml.Rule.Reduced
import ClassTaint.Proofs.Text.Padding
import ClassTaint.Proofs.Catalog.Splitting
import ClassTaint.Proofs.Catalog.Concatenation
import ClassTaint.Proofs.Text.Printing
import ClassTaint.Proofs.Value.Printing
import ClassTaint.Proofs.Catalog.Messages
import ClassTaint.Proofs.Catalog.Item
import ClassTaint.Proofs.Catalog.Padding
import ClassTaint.Proofs.Config.Meaning
import ClassTaint.Proofs.Value.Writing
