import Audience.LogFilter
import Audience.Main
import Audience.Proofs.Agreement
import Audience.Proofs.Arity
import Audience.Proofs.CommandLine
import Audience.Proofs.Footprint
import Audience.Proofs.Store.Clients
import Audience.Proofs.Documents.Edits
import Audience.Text.Blank
import Audience.Text.Case
import Audience.Proofs.Store.Figures
import Audience.Proofs.Explanation
import Audience.Proofs.Malformation
import Audience.Proofs.Paths.Locations
import Audience.Proofs.Paths.Reading
import Audience.Proofs.Numbers.Numerals
import Audience.Proofs.Numbers.Rounding
import Audience.Proofs.Comparison.Dates
import Audience.Proofs.Comparison.Order
import Audience.Proofs.Comparison.Times
import Audience.Proofs.Comparison.Membership
import Audience.Proofs.Comparison.Transitivity
import Audience.Proofs.Comparison.Ranges
import Audience.Proofs.Comparison.Integers
import Audience.Proofs.Documents.Spellings
import Audience.Proofs.Settings.Loading
