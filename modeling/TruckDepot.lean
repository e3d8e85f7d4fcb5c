import TruckDepot.Quantity.Rational
import TruckDepot.Fleet.SavedText
import TruckDepot.Journal.Text
import TruckDepot.Report.Text
import TruckDepot.Report.Csv
import TruckDepot.Scenario.Settings
import TruckDepot.Command.Session
import TruckDepot.Main
import TruckDepot.Proofs.Fleet.PlanCache
import TruckDepot.Proofs.Fleet.Hour
import TruckDepot.Proofs.Schedule.Declaration
import TruckDepot.Proofs.Fleet.Resume
import TruckDepot.Proofs.Fleet.Early
import TruckDepot.Proofs.Fleet.Deadline
import TruckDepot.Proofs.Fleet.Nameplate
import TruckDepot.Proofs.Schedule.Coverage
import TruckDepot.Proofs.Fleet.Work
import TruckDepot.Proofs.Fleet.Borrowing
import TruckDepot.Proofs.Fleet.ResumePlan
import TruckDepot.Proofs.Fleet.SavedText
import TruckDepot.Proofs.Fleet.Deployment
import TruckDepot.Proofs.Fleet.CheapestHour
import TruckDepot.Proofs.Fleet.ConstantPrice
import TruckDepot.Proofs.Fleet.SavedSchedule
import TruckDepot.Proofs.Fleet.Handovers
import TruckDepot.Proofs.Fleet.Needs
import TruckDepot.Proofs.Schedule.Segments
import TruckDepot.Proofs.Schedule.TruckHours
import TruckDepot.Proofs.Fleet.BusiestDay
import TruckDepot.Proofs.Fleet.Chargers
import TruckDepot.Proofs.Schedule.Occurrences
import TruckDepot.Proofs.Fleet.NeededEnergy
import TruckDepot.Proofs.Fleet.RestoredState
import TruckDepot.Proofs.Fleet.MoreTrucks
import TruckDepot.Proofs.Fleet.Horizon
import TruckDepot.Proofs.Quantity.Binary32
import TruckDepot.Proofs.Scenario.Validation
import TruckDepot.Proofs.Decimal.Binary32
import TruckDepot.Proofs.Fleet.Resaved
import TruckDepot.Proofs.Decimal.Halves
import TruckDepot.Proofs.Decimal.Interval
import TruckDepot.Proofs.Decimal.Margin
import TruckDepot.Proofs.Decimal.Reading
import TruckDepot.Proofs.Week.Clock
import TruckDepot.Proofs.Fleet.ClockedRun
import TruckDepot.Proofs.Checked.Lookup
import TruckDepot.Proofs.Checked.Sizing
import TruckDepot.Proofs.Checked.Plan
import TruckDepot.Proofs.Checked.Fleet
import TruckDepot.Proofs.Decimal.FixedPlaces
import TruckDepot.Proofs.Report.Csv
