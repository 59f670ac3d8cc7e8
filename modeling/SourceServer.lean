import SourceServer.Main
import SourceServer.Proofs.FileSystem.Places
import SourceServer.Proofs.FileSystem.Kinds
import SourceServer.Proofs.FileSystem.Writing
import SourceServer.Proofs.Index.Layout
import SourceServer.Proofs.Link.Effect
import SourceServer.Proofs.Batch.Schedule
import SourceServer.Proofs.Batch.InTurn
import SourceServer.Proofs.Index.Unbroken
import SourceServer.Proofs.Batch.Order
import SourceServer.Proofs.Checksum.Gathering
import SourceServer.Proofs.Capitalization.Completeness
import SourceServer.Proofs.Capitalization.Following
import SourceServer.Proofs.Capitalization.Spelling
import SourceServer.Proofs.Capitalization.OneDirectory
import SourceServer.Proofs.Verification.Report
import SourceServer.Proofs.Index.Reading
import SourceServer.Proofs.Remote.Template
import SourceServer.Proofs.Index.Substitution
import SourceServer.Proofs.Remote.Placeholders
import SourceServer.Proofs.Remote.GitUrl
import SourceServer.Proofs.Index.Acceptance
import SourceServer.Proofs.Unicode.Endings
import SourceServer.Proofs.Capitalization.CaseInsensitive
import SourceServer.Proofs.Checksum.Streams
import SourceServer.Proofs.Verification.Spelling
import SourceServer.Proofs.Link.StreamOrder
import SourceServer.Proofs.Pdb.OneStream
import SourceServer.Proofs.CommandLine.Verify
import SourceServer.Proofs.Link.RelativePath
import SourceServer.Proofs.Link.Advisory
import SourceServer.Proofs.FileSystem.Outline
import SourceServer.Proofs.Link.Contents
import SourceServer.Proofs.Path.FileName
import SourceServer.Proofs.Verification.Markup
import SourceServer.Proofs.Pdb.NamedStreams
import SourceServer.Proofs.Verification.Evidence
import SourceServer.Proofs.Checksum.History
import SourceServer.Proofs.Remote.Detection
import SourceServer.Proofs.Remote.Grammar
import SourceServer.Proofs.Remote.Pattern
import SourceServer.Proofs.Remote.Readers
import SourceServer.Proofs.Remote.TeamServices
import SourceServer.Proofs.Checksum.Extraction
import SourceServer.Proofs.Link.IndexedFiles
import SourceServer.Proofs.Verification.Candidates
import SourceServer.Proofs.CommandLine.SourceList
import SourceServer.Proofs.Batch.Careful
import SourceServer.Proofs.CommandLine.Backslashes
import SourceServer.Proofs.CommandLine.Printed
import SourceServer.Proofs.CommandLine.Link
import SourceServer.Proofs.Link.Root
import SourceServer.Proofs.Verification.Digests
import SourceServer.Proofs.Capitalization.Choice
