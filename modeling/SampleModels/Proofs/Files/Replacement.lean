import SampleModels.Files.Generate
import SampleModels.Proofs.Delivery
import SampleModels.Proofs.Files.Writing

/-!
# Generating a file replaces one file or none

Everything that can fail comes before the output is touched, and the sample is read before that,
so the output may be the input.
-/

namespace SampleModels

open Files

end SampleModels
