import Questionnaire.Main
import Questionnaire.Route.Session
import Questionnaire.Proofs.DrainOrder
import Questionnaire.Proofs.Reached
import Questionnaire.Proofs.CleanSurvey
import Questionnaire.Proofs.CompiledRoutes
import Questionnaire.Proofs.FieldsRead
import Questionnaire.Proofs.HopCases
import Questionnaire.Proofs.NextCases
import Questionnaire.Proofs.PublishGate
import Questionnaire.Proofs.Replay
import Questionnaire.Proofs.OrderDepth
import Questionnaire.Proofs.StorageOrder
import Questionnaire.Proofs.SessionRuns
import Questionnaire.Proofs.Checks
import Questionnaire.Proofs.SoundReports
import Questionnaire.Proofs.Progress
import Questionnaire.Proofs.KeptEdges
import Questionnaire.Proofs.OrderLast
import Questionnaire.Proofs.SameWalk
import Questionnaire.Proofs.UnreadAnswers
import Questionnaire.Proofs.ShapeLaws
import Questionnaire.Proofs.PartLaws
import Questionnaire.Proofs.ConditionRestored
import Questionnaire.Proofs.DataRestored
import Questionnaire.Proofs.StoredGraph
import Questionnaire.Proofs.StoredBehaviour
import Questionnaire.Proofs.LateSkip
import Questionnaire.Proofs.SessionHistory
import Questionnaire.Proofs.ClosedEnds
import Questionnaire.Proofs.FailsOpen
import Questionnaire.Proofs.GraphReports
import Questionnaire.Proofs.CausalReports
import Questionnaire.Proofs.ConditionFormula
import Questionnaire.Proofs.EmptyConditions
import Questionnaire.Proofs.Overflow
import Questionnaire.Proofs.Labels
import Questionnaire.Proofs.RichAnswers
import Questionnaire.Proofs.Blankness
import Questionnaire.Proofs.ChoicesApart
import Questionnaire.Proofs.Wording
import Questionnaire.Proofs.LastWins
import Questionnaire.Proofs.CanonicalCondition
import Questionnaire.Proofs.RangeList
import Questionnaire.Proofs.ParsedDesign
import Questionnaire.Proofs.TidyText
import Questionnaire.Proofs.StrayRoutes
import Questionnaire.Proofs.CommandEnds
