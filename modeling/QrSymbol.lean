import QrSymbol.Album
import QrSymbol.Bch
import QrSymbol.Bitmap
import QrSymbol.Bits
import QrSymbol.BlockPlan
import QrSymbol.Capacity
import QrSymbol.Charset
import QrSymbol.Codewords
import QrSymbol.DataStream
import QrSymbol.Draft
import QrSymbol.EncodeError
import QrSymbol.FormatInformation
import QrSymbol.FunctionPattern
import QrSymbol.Gf256
import QrSymbol.Gf256.Logarithm
import QrSymbol.Grid
import QrSymbol.Journal
import QrSymbol.Kanji.Code
import QrSymbol.Kanji.Repertoire
import QrSymbol.Level
import QrSymbol.Mask
import QrSymbol.MaskChoice
import QrSymbol.Mode
import QrSymbol.ModeChoice
import QrSymbol.Module
import QrSymbol.Options
import QrSymbol.Payload
import QrSymbol.Penalty.Occurrences
import QrSymbol.Penalty.Score
import QrSymbol.Place
import QrSymbol.Raster
import QrSymbol.ReedSolomon
import QrSymbol.ReedSolomon.InPlace
import QrSymbol.Session
import QrSymbol.Square
import QrSymbol.Symbol
import QrSymbol.Text.Quoted
import QrSymbol.Text.Unprintable
import QrSymbol.Version
import QrSymbol.VersionInformation
import QrSymbol.Proofs.CodePolynomial
import QrSymbol.Proofs.BlockDistance
import QrSymbol.Reading
import QrSymbol.Proofs.CodewordStream
import QrSymbol.Proofs.InformationWords
import QrSymbol.Proofs.PatternAreas
import QrSymbol.Proofs.FreeCount
import QrSymbol.Proofs.DataOrder
import QrSymbol.Proofs.DataCapacity
import QrSymbol.Proofs.GridLayout
import QrSymbol.Proofs.Outcome
import QrSymbol.Proofs.SymbolLayout
import QrSymbol.Proofs.GridRuns
import QrSymbol.Proofs.RoundTrip
import QrSymbol.Proofs.Choices
import QrSymbol.Proofs.ForcedMasks
import QrSymbol.Proofs.SessionHistory
import QrSymbol.Proofs.Borders
import QrSymbol.Proofs.CorrectionCodewords
import QrSymbol.Proofs.OccurrenceSearch
import QrSymbol.Proofs.MaximalRuns
import QrSymbol.Proofs.PenaltyRules
import QrSymbol.Proofs.Filling
import QrSymbol.Proofs.StreamOrder
import QrSymbol.Proofs.StreamLayout
import QrSymbol.Proofs.LargestText
import QrSymbol.Proofs.RequiredMode
import QrSymbol.Proofs.CheckedWords
import QrSymbol.Proofs.FormatReading
import QrSymbol.Proofs.LeastPenalty
import QrSymbol.Proofs.PayloadFields
import QrSymbol.Proofs.SharedCodes
import QrSymbol.Proofs.BitmapWrites
import QrSymbol.Proofs.GridViews
import QrSymbol.Proofs.PicturePixels
import QrSymbol.Proofs.InformationChecks
import QrSymbol.Proofs.Pushes
import QrSymbol.Proofs.Logarithms
import QrSymbol.Proofs.GeneratorInPlace
