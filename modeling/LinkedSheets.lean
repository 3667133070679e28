import LinkedSheets.Command.Run
import LinkedSheets.Files.Tree
import LinkedSheets.Main
import LinkedSheets.Settings.Decoding
import LinkedSheets.Workbook.Document
import LinkedSheets.Proofs.Cell.Numeration
import LinkedSheets.Proofs.Cell.Spelling
import LinkedSheets.Proofs.Cell.Grammar
import LinkedSheets.Proofs.Cell.Canonical
import LinkedSheets.Proofs.Cell.ColumnNumbers
import LinkedSheets.Proofs.Text.Digits
import LinkedSheets.Proofs.Text.Beginnings
import LinkedSheets.Proofs.Number.Nearest
import LinkedSheets.Proofs.Number.Operations
import LinkedSheets.Proofs.Number.Shortest
import LinkedSheets.Proofs.Number.Numeral
import LinkedSheets.Proofs.Number.Layouts
import LinkedSheets.Proofs.Number.Integers
import LinkedSheets.Proofs.Value.Shown
import LinkedSheets.Proofs.Area.Extent
import LinkedSheets.Proofs.Area.Bounding
import LinkedSheets.Proofs.Area.Grid
import LinkedSheets.Proofs.Area.Spelling
import LinkedSheets.Proofs.Area.Rectangle
import LinkedSheets.Proofs.Table.Filling
import LinkedSheets.Proofs.Sheet.Insertions
import LinkedSheets.Proofs.Sheet.CellMap
import LinkedSheets.Proofs.Markup.CellElement
import LinkedSheets.Proofs.Markup.Anchor
import LinkedSheets.Proofs.Markup.LinkCell
import LinkedSheets.Proofs.Markup.Escaping
import LinkedSheets.Proofs.Markup.EscapedText
import LinkedSheets.Proofs.Markup.PercentCoding
import LinkedSheets.Proofs.Markup.UrlReference
import LinkedSheets.Proofs.Json.Distinct
import LinkedSheets.Proofs.Workbook.Pushing
import LinkedSheets.Proofs.Workbook.Decoding
import LinkedSheets.Proofs.Workbook.Loading
import LinkedSheets.Proofs.Files.Walking
import LinkedSheets.Proofs.Files.Carrying
import LinkedSheets.Proofs.Time.Writable
import LinkedSheets.Proofs.Dimensions.Reading
import LinkedSheets.Proofs.Formula.Layout
import LinkedSheets.Proofs.Formula.Scoping
import LinkedSheets.Proofs.Formula.Links
import LinkedSheets.Proofs.Formula.Decoding
import LinkedSheets.Proofs.Formula.Splicing
import LinkedSheets.Proofs.Formula.Percentages
import LinkedSheets.Proofs.Json.NumberForms
import LinkedSheets.Proofs.Report.Outcome
import LinkedSheets.Proofs.Report.LateRejection
import LinkedSheets.Proofs.Report.InsertionOrder
import LinkedSheets.Proofs.Report.Composition
import LinkedSheets.Proofs.Report.ReadBack
import LinkedSheets.Proofs.Report.InertText
import LinkedSheets.Proofs.Report.AllOrNothing
import LinkedSheets.Proofs.Report.Validation
import LinkedSheets.Proofs.Report.Writing
import LinkedSheets.Proofs.Report.PageNames
import LinkedSheets.Proofs.Report.Navigation
import LinkedSheets.Proofs.Report.NavigationEntries
import LinkedSheets.Proofs.Report.LinkedPages
import LinkedSheets.Proofs.Report.Hints
import LinkedSheets.Proofs.Report.QualifiedLinks
import LinkedSheets.Proofs.Report.CellLinks
import LinkedSheets.Proofs.Command.Execution
