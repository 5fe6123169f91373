import PapyrusScript.Main
import PapyrusScript.Proofs.AcceptedBodies
import PapyrusScript.Proofs.Arms
import PapyrusScript.Proofs.BrokenCondition
import PapyrusScript.Proofs.BrokenHeader
import PapyrusScript.Proofs.CarriageReturns
import PapyrusScript.Proofs.Checking
import PapyrusScript.Proofs.Discovery
import PapyrusScript.Proofs.DuplicateHeaders
import PapyrusScript.Proofs.FinalLineFeed
import PapyrusScript.Proofs.KeywordCase
import PapyrusScript.Proofs.LineFeedsInBrackets
import PapyrusScript.Proofs.Lookahead
import PapyrusScript.Proofs.NumberLiterals
import PapyrusScript.Proofs.PointedReports
import PapyrusScript.Proofs.Proper.Script
import PapyrusScript.Proofs.StoredSettings
import PapyrusScript.Proofs.SummaryCounts
import PapyrusScript.Proofs.Unnamed
import PapyrusScript.Proofs.Walks
import PapyrusScript.Proofs.WellNested.Script
import PapyrusScript.Proofs.Writing
