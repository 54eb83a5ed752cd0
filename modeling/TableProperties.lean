import TableProperties.Main
import TableProperties.Session
import TableProperties.Proofs.Mapping
import TableProperties.Proofs.Property.Catalog
import TableProperties.Proofs.Registry
import TableProperties.Proofs.History
import TableProperties.Proofs.CommandLine.Overrides
import TableProperties.Proofs.Integer
import TableProperties.Proofs.Json
import TableProperties.Proofs.CommandLine.Arguments
import TableProperties.Proofs.Interval
import TableProperties.Proofs.Property.Value
import TableProperties.Proofs.CommandLine.Run
import TableProperties.Proofs.Files.Tree
import TableProperties.Proofs.Document.Flatten
import TableProperties.Proofs.PropertiesFile.RoundTrip
import TableProperties.Proofs.CommandLine.Show
import TableProperties.Proofs.CommandLine.Output
import TableProperties.Proofs.Mapping.Overlay
import TableProperties.Proofs.Metadata
import TableProperties.Proofs.CommandLine.QuotedWords
import TableProperties.Proofs.Provider
import TableProperties.Proofs.Toml.Lines
import TableProperties.Proofs.Toml.Reader
import TableProperties.Proofs.Validation.Refusal
import TableProperties.Proofs.Document.Leaves
import TableProperties.Proofs.Text.Blank
import TableProperties.Proofs.Text.Words
import TableProperties.Proofs.Interval.Terms
import TableProperties.Proofs.Files.Directories
import TableProperties.Proofs.Integer.Numeral
import TableProperties.Proofs.Validation.Fixed
import TableProperties.Proofs.CommandLine.Items
import TableProperties.Proofs.Document.Typed
import TableProperties.Proofs.Registry.IgnoringCase
