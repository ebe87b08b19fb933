import SwaggerGen.Main
import SwaggerGen.Proofs.Command.Delivery
import SwaggerGen.Proofs.Document.BodyReferences
import SwaggerGen.Proofs.Document.Declared
import SwaggerGen.Proofs.Document.ExtraOption
import SwaggerGen.Proofs.Literal.Writing
import SwaggerGen.Proofs.Operation.Shape
import SwaggerGen.Proofs.Parameter.Contribution
import SwaggerGen.Proofs.Parameter.Typing
import SwaggerGen.Proofs.PathTemplate.Exposure
import SwaggerGen.Proofs.Schema.Shape
import SwaggerGen.Proofs.Tag.Default
import SwaggerGen.Proofs.Tag.Leftmost
