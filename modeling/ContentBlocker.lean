import ContentBlocker.Bytes
import ContentBlocker.Checksum
import ContentBlocker.CommandLine.Arguments
import ContentBlocker.CommandLine.Basic
import ContentBlocker.Event
import ContentBlocker.Filter.Basic
import ContentBlocker.Filter.ContentTypes
import ContentBlocker.Filter.Domains
import ContentBlocker.Filter.Line
import ContentBlocker.Filter.OptionValue
import ContentBlocker.Filter.Options
import ContentBlocker.Filter.Script
import ContentBlocker.Filter.Substitute
import ContentBlocker.FilterList.Compile
import ContentBlocker.FilterList.Metadata
import ContentBlocker.Host.Address
import ContentBlocker.Host.Domain
import ContentBlocker.Host.PublicSuffix
import ContentBlocker.Index.Builder
import ContentBlocker.Index.Pool
import ContentBlocker.Index.Postings
import ContentBlocker.Index.Record
import ContentBlocker.Index.Section
import ContentBlocker.Index.Snapshot
import ContentBlocker.Index.SubIndex
import ContentBlocker.Index.Table
import ContentBlocker.Index.View
import ContentBlocker.Keyword
import ContentBlocker.Main
import ContentBlocker.Matching.Activity
import ContentBlocker.Matching.Find
import ContentBlocker.Matching.Query
import ContentBlocker.Pattern.Address
import ContentBlocker.Pattern.Cache
import ContentBlocker.Pattern.Compiled
import ContentBlocker.Pattern.Engine
import ContentBlocker.Reference.Engine
import ContentBlocker.Reference.Extended.Basic
import ContentBlocker.Reference.Extended.Grammar
import ContentBlocker.Reference.Extended.Search
import ContentBlocker.Reference.Search
import ContentBlocker.Reference.Suffixes
import ContentBlocker.Reference.Weight
import ContentBlocker.Regex.Basic
import ContentBlocker.Regex.CharSet
import ContentBlocker.Regex.Grammar
import ContentBlocker.Regex.Source
import ContentBlocker.Subscription.Basic
import ContentBlocker.Subscription.Collection
import ContentBlocker.Subscription.Shared
import ContentBlocker.Text.Basic
import ContentBlocker.Text.Blank
import ContentBlocker.Text.Digits
import ContentBlocker.Text.Folding
import ContentBlocker.Text.Ordered
import ContentBlocker.Text.Quoted
import ContentBlocker.Text.Rounded
import ContentBlocker.Text.Structured
import ContentBlocker.Text.Utf8
import ContentBlocker.Text.Word
import ContentBlocker.Url
import ContentBlocker.Proofs.Bytes.Placement
import ContentBlocker.Proofs.Filter.Ascii
import ContentBlocker.Proofs.Filter.Braces
import ContentBlocker.Proofs.Filter.Elements
import ContentBlocker.Proofs.Filter.Parsed
import ContentBlocker.Proofs.Filter.Privilege
import ContentBlocker.Proofs.FilterList.Unprivileged
import ContentBlocker.Proofs.Host.Domain
import ContentBlocker.Proofs.Host.LookupKeys
import ContentBlocker.Proofs.Index.Filed
import ContentBlocker.Proofs.Index.Gathering
import ContentBlocker.Proofs.Index.Layout
import ContentBlocker.Proofs.Index.Loading
import ContentBlocker.Proofs.Index.Lookup
import ContentBlocker.Proofs.Index.Pools
import ContentBlocker.Proofs.Index.Postings
import ContentBlocker.Proofs.Index.Records
import ContentBlocker.Proofs.Index.RoundTrip
import ContentBlocker.Proofs.Index.Table
import ContentBlocker.Proofs.Index.Tables
import ContentBlocker.Proofs.Matching.Answers
import ContentBlocker.Proofs.Matching.Buckets
import ContentBlocker.Proofs.Matching.Retrieval
import ContentBlocker.Proofs.Matching.Strategies
import ContentBlocker.Proofs.Matching.TwoRuns
import ContentBlocker.Proofs.Pattern.Bars
import ContentBlocker.Proofs.Pattern.Filing
import ContentBlocker.Proofs.Pattern.Meaning
import ContentBlocker.Proofs.Pattern.Members
import ContentBlocker.Proofs.Pattern.OrdinarySearch
import ContentBlocker.Proofs.Pattern.Retention
import ContentBlocker.Proofs.Pattern.Source
import ContentBlocker.Proofs.Pattern.Translation
import ContentBlocker.Proofs.Pattern.Words
import ContentBlocker.Proofs.Reference.Engine
import ContentBlocker.Proofs.Reference.Search
import ContentBlocker.Proofs.Regex.Reading
import ContentBlocker.Proofs.Regex.Runs
import ContentBlocker.Proofs.Regex.Spans
import ContentBlocker.Proofs.Subscription.ElementHiding
import ContentBlocker.Proofs.Subscription.Exceptions
import ContentBlocker.Proofs.Text.Ascii
import ContentBlocker.Proofs.Text.Cutting
import ContentBlocker.Proofs.Text.Folding
import ContentBlocker.Proofs.Checksum.Windows
import ContentBlocker.Proofs.Index.Corruption
import ContentBlocker.Proofs.Bytes.Access
import ContentBlocker.Proofs.Index.Bounds
import ContentBlocker.Proofs.Index.Guarded
import ContentBlocker.Proofs.Index.GuardedRecords
import ContentBlocker.Proofs.Index.GuardedTables
import ContentBlocker.Proofs.Index.Safety
import ContentBlocker.Proofs.Matching.SameItems
import ContentBlocker.Proofs.Subscription.Responses
import ContentBlocker.Proofs.Subscription.SameMembers
import ContentBlocker.Proofs.Text.Trimming
import ContentBlocker.Proofs.Text.Utf8
import ContentBlocker.Proofs.FilterList.Lines
import ContentBlocker.Proofs.FilterList.Reading
import ContentBlocker.Proofs.FilterList.HeaderModes
import ContentBlocker.Proofs.FilterList.DroppedLines
import ContentBlocker.Proofs.Matching.Completion
import ContentBlocker.Proofs.Subscription.GenericHiding
import ContentBlocker.Proofs.Filter.Patterns
import ContentBlocker.Host.LookupKeys
import ContentBlocker.Proofs.Pattern.HostAnchors
import ContentBlocker.Proofs.Host.SuffixRule
import ContentBlocker.Proofs.Subscription.Snippets
import ContentBlocker.Proofs.Filter.Options
import ContentBlocker.Proofs.Filter.Restrictions
import ContentBlocker.Proofs.Filter.TypeMask
import ContentBlocker.Proofs.Filter.Commas
import ContentBlocker.Proofs.Filter.Entries
import ContentBlocker.Proofs.Filter.Policies
import ContentBlocker.Proofs.Index.Purposes
import ContentBlocker.Proofs.Filter.Grants
import ContentBlocker.Proofs.Filter.Scripts
import ContentBlocker.Proofs.Host.Authority
import ContentBlocker.Proofs.Text.ByteOrder
import ContentBlocker.Proofs.Filter.Admissible
import ContentBlocker.Proofs.FilterList.ByteOrderMark
import ContentBlocker.Proofs.FilterList.Expiry
import ContentBlocker.Proofs.Index.PostingCursor
