import FeatureFlags.Evaluation
import FeatureFlags.Settings.Decode
import FeatureFlags.Proofs.Gathering
import FeatureFlags.Proofs.SegmentMeaning
import FeatureFlags.Proofs.Calls
import FeatureFlags.Proofs.Keeping
import FeatureFlags.Proofs.Stickiness
import FeatureFlags.Proofs.Champion
import FeatureFlags.Proofs.Grounds
import FeatureFlags.Proofs.Processing
import FeatureFlags.Proofs.Linking
import FeatureFlags.Proofs.Exclusivity
import FeatureFlags.Proofs.LastingExclusivity
import FeatureFlags.Proofs.Consultations
import FeatureFlags.Proofs.FailedReplies
import FeatureFlags.Proofs.Candidates
import FeatureFlags.Proofs.Arena
import FeatureFlags.Proofs.Rounding
import FeatureFlags.Proofs.Allocation
import FeatureFlags.Proofs.Draws
import FeatureFlags.Proofs.Ramping
import FeatureFlags.Proofs.WinnerSoundness
import FeatureFlags.Proofs.GroupStickiness
import FeatureFlags.Proofs.Endings
import FeatureFlags.Proofs.SessionMemo
import FeatureFlags.Proofs.CallOrder
import FeatureFlags.Proofs.Granting
import FeatureFlags.Proofs.Indifference
import FeatureFlags.Proofs.Repetition
import FeatureFlags.Proofs.Likeness
import FeatureFlags.Proofs.Blindness
import FeatureFlags.Proofs.VariableStages
import FeatureFlags.Proofs.KeptRollouts
import FeatureFlags.Proofs.Removal
import FeatureFlags.Proofs.SoleComparison
import FeatureFlags.Proofs.ContestAgreement
import FeatureFlags.Proofs.TrafficBounds
import FeatureFlags.Proofs.DocumentWeights
import FeatureFlags.Proofs.Narrowing
import FeatureFlags.Proofs.Forcing
import FeatureFlags.Proofs.EqualShares
import FeatureFlags.Proofs.Precedence
import FeatureFlags.Proofs.GateAgreement
import FeatureFlags.Proofs.PlaceLeaves
import FeatureFlags.Proofs.NamedData
import FeatureFlags.Proofs.ShortCircuit
import FeatureFlags.Proofs.Pieces
import FeatureFlags.Proofs.Ascii
import FeatureFlags.Proofs.Readers
import FeatureFlags.Proofs.Trimming
import FeatureFlags.Proofs.OperandGrammar
import FeatureFlags.Proofs.IntegerEquality
import FeatureFlags.Proofs.PatternReading.Alternatives
import FeatureFlags.Proofs.PatternMeaning
import FeatureFlags.Proofs.FullMatch
import FeatureFlags.Proofs.WholePoints
import FeatureFlags.Proofs.Consistency
import FeatureFlags.Proofs.UserLists
import FeatureFlags.Proofs.DeviceGlobs
import FeatureFlags.Proofs.Mixing
import FeatureFlags.Proofs.Uniformity
import FeatureFlags.Proofs.Enumeration
import FeatureFlags.Proofs.PrintedText
import FeatureFlags.Proofs.RecordText
import FeatureFlags.Proofs.Identities
import FeatureFlags.Proofs.Seeds
