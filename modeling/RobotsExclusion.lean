import RobotsExclusion.Config.Decision
import RobotsExclusion.Config.Loading
import RobotsExclusion.Config.Writing
import RobotsExclusion.Main
import RobotsExclusion.PathPattern.Language
import RobotsExclusion.Policy
import RobotsExclusion.Proofs.Insertion
import RobotsExclusion.Proofs.InsertedAllow
import RobotsExclusion.Proofs.Narrowing
import RobotsExclusion.Proofs.Reordering
import RobotsExclusion.Proofs.Independence
import RobotsExclusion.Proofs.AssignedAgent
import RobotsExclusion.Proofs.IndexingDecision
import RobotsExclusion.Proofs.BlanketPaths
import RobotsExclusion.Proofs.WrittenConfig
import RobotsExclusion.Proofs.RefusedPatterns
import RobotsExclusion.Proofs.WrittenToml
import RobotsExclusion.Proofs.Notations
import RobotsExclusion.Proofs.SpelledJson
import RobotsExclusion.Proofs.TopLevelEntries
import RobotsExclusion.Proofs.AcceptedShapes
import RobotsExclusion.Proofs.Exclusion
import RobotsExclusion.Proofs.ShortestMatch
import RobotsExclusion.Proofs.ContainedNames
import RobotsExclusion.Proofs.NestedNames
import RobotsExclusion.Proofs.EquivalentPatterns
import RobotsExclusion.Proofs.RespelledNames
