import AppBoundary.Main
import AppBoundary.Proofs.CommandLine.Outcomes
import AppBoundary.Proofs.Dex.Assembly
import AppBoundary.Proofs.Dex.Packages
import AppBoundary.Proofs.Dex.Truncation
import AppBoundary.Proofs.Dex.Words
import AppBoundary.Proofs.Filter.Coverage
import AppBoundary.Proofs.Filter.GlobSearch
import AppBoundary.Proofs.Filter.StarredEntries
import AppBoundary.Proofs.Pattern.LetterCase
import AppBoundary.Proofs.Dex.Spelling
import AppBoundary.Proofs.EntryPoint
import AppBoundary.Proofs.Pattern.Descriptions
import AppBoundary.Proofs.Dex.WrittenStrings
import AppBoundary.Proofs.Configuration.PackageArchive
import AppBoundary.Proofs.Platform
import AppBoundary.Proofs.TypeNames
import AppBoundary.Proofs.Text.AsciiCase
import AppBoundary.Proofs.Dex.Septets
import AppBoundary.Proofs.CommandLine.ListOptions
