import WireModel.Codec.Session
import WireModel.Main
import WireModel.Proofs.Codec.Conformance
import WireModel.Proofs.Codec.Refusal
import WireModel.Proofs.Codec.Selection
import WireModel.Proofs.Codec.Members
import WireModel.Proofs.Collection.History
import WireModel.Proofs.Collection.Order
import WireModel.Proofs.Collection.Congruence
import WireModel.Proofs.Collection.Termination
import WireModel.Proofs.Collection.References
import WireModel.Proofs.Collection.Escape
import WireModel.Proofs.Codec.Hints
import WireModel.Proofs.Render.JavaBalance
import WireModel.Proofs.Command
import WireModel.Proofs.Render.JavaScopes
import WireModel.Proofs.Skeleton
import WireModel.Proofs.Codec.Keys
import WireModel.Proofs.Codec.Accessors
import WireModel.Proofs.Collection.Substitution
import WireModel.Proofs.Erasure
import WireModel.Proofs.Respelling
import WireModel.Proofs.Render.JavaLexis
import WireModel.Proofs.Render.Brackets
import WireModel.Proofs.Exports
