import GraphCalc.ImagePath
import GraphCalc.Proofs.Frames
import GraphCalc.Proofs.NormalForms
import GraphCalc.Proofs.PartialEvaluation
import GraphCalc.Session.Steps
import GraphCalc.Proofs.Obstructions
import GraphCalc.Proofs.IncrementalSimplification
import GraphCalc.Proofs.Circles
import GraphCalc.Proofs.Tabulation
import GraphCalc.Proofs.Renders
import GraphCalc.Proofs.MissingNames
import GraphCalc.Proofs.SimplifiedPlots
import GraphCalc.Proofs.RecordedPlots
import GraphCalc.Proofs.SharedCircles
import GraphCalc.Proofs.ScopedBindings
import GraphCalc.Proofs.InputLines
import GraphCalc.Proofs.Acyclicity
import GraphCalc.Proofs.Assignments
import GraphCalc.Proofs.ExpectedErrors
import GraphCalc.Proofs.SampleIndices
import GraphCalc.Proofs.RoundingIntervals
import GraphCalc.Proofs.Rounding
import GraphCalc.Proofs.Comparisons
import GraphCalc.Proofs.Packing
import GraphCalc.Proofs.DoubleArithmetic
import GraphCalc.Proofs.MonotoneArithmetic
import GraphCalc.Proofs.GridPoints
import GraphCalc.Proofs.RoundingErrors
import GraphCalc.Proofs.SampledSeries
import GraphCalc.Proofs.UniformSamples
import GraphCalc.Proofs.LostSamples
import GraphCalc.Proofs.SamplingLoop
import GraphCalc.Proofs.Reachability
import GraphCalc.Proofs.SimplificationDomain
import GraphCalc.Proofs.Inlining
import GraphCalc.Proofs.EvaluationDomain
import GraphCalc.Proofs.ReachableBindings
import GraphCalc.Proofs.RefusalOrder
import GraphCalc.Proofs.Negation
import GraphCalc.Proofs.DecimalReading
import GraphCalc.Proofs.Numerals
import GraphCalc.Proofs.Readability
import GraphCalc.Proofs.Resolutions
import GraphCalc.Proofs.UndefinedNames
import GraphCalc.Proofs.NestedResolutions
import GraphCalc.Proofs.SignedZeros
import GraphCalc.Proofs.EqualFormulas
import GraphCalc.Proofs.ImageLocations
import GraphCalc.Proofs.Calculability
