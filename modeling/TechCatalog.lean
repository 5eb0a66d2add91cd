import TechCatalog.Log.Line
import TechCatalog.Log.Setup
import TechCatalog.Log.Template
import TechCatalog.Options.Ranking
import TechCatalog.Profile.Form
import TechCatalog.Proofs.CategoryGroups
import TechCatalog.Proofs.ColumnModes
import TechCatalog.Proofs.Display
import TechCatalog.Proofs.Fitting
import TechCatalog.Proofs.Guard
import TechCatalog.Proofs.Dropdowns
import TechCatalog.Proofs.ReadBack
import TechCatalog.Proofs.Shape
import TechCatalog.Proofs.SharedPart
import TechCatalog.Proofs.TechnologyModes
import TechCatalog.Proofs.TextMatching
import TechCatalog.Search.Execution
import TechCatalog.Service.App
import TechCatalog.Service.Schedule
import TechCatalog.Stats.Rebuild
import TechCatalog.Proofs.SameValues
import TechCatalog.Proofs.SortFallback
import TechCatalog.Proofs.RebuiltFigures
import TechCatalog.Proofs.AllOrNothing
import TechCatalog.Proofs.OneByOne
import TechCatalog.Proofs.SearchedLists
import TechCatalog.Proofs.PartsOfLists
import TechCatalog.Proofs.SubQueries
import TechCatalog.Proofs.JoinedTables
import TechCatalog.Proofs.IdleFilters
import TechCatalog.Proofs.Spellings
import TechCatalog.Proofs.LogLines
import TechCatalog.Proofs.StoredLists
import TechCatalog.Proofs.LiteralTexts
import TechCatalog.Proofs.NamedOrigins
