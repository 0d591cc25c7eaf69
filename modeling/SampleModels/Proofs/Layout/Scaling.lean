import SampleModels.Proofs.Decoding.Headers
import SampleModels.Proofs.Layout.Preorder

/-!
# Sources of one tree at different widths

The spaces of a level are only made when a buffer is rendered, with one width for all lines, however
deep the model that they belong to. So the sources of a tree differ in nothing but the number of
spaces that its lines begin with, and these go up in proportion to the width.
-/

namespace SampleModels

namespace Model

end Model

end SampleModels
