import TypedRows.Attribute
import TypedRows.Entity
import TypedRows.Fault
import TypedRows.Keyed
import TypedRows.Keyspace
import TypedRows.Kind
import TypedRows.Numeric.Decimal
import TypedRows.Numeric.Format
import TypedRows.Object
import TypedRows.Proofs.Keyed
import TypedRows.Proofs.Lineage
import TypedRows.Proofs.Sequences
import TypedRows.Proofs.TableKeys
import TypedRows.Registry.Consistency
import TypedRows.Registry.Context
import TypedRows.Registry.Dispatch
import TypedRows.Registry.Event
import TypedRows.Registry.Report
import TypedRows.Registry.Root
import TypedRows.Registry.Store
import TypedRows.Registry.TypeEntity
import TypedRows.Require
import TypedRows.Row
import TypedRows.Schema.Class
import TypedRows.Schema.ClassText
import TypedRows.Schema.Field
import TypedRows.Schema.FieldDecl
import TypedRows.Schema.Table
import TypedRows.Session.Action
import TypedRows.Session.Basic
import TypedRows.Session.Run
import TypedRows.Settings
import TypedRows.Settings.Document
import TypedRows.Text.Invisible
import TypedRows.Text.Quoted
import TypedRows.Toml.Node
import TypedRows.Toml.Quoted
import TypedRows.Toml.Reader
import TypedRows.Toml.Scalar
import TypedRows.Value
import TypedRows.Proofs.Introspection
import TypedRows.Proofs.Consistency
import TypedRows.Proofs.Inheritance
import TypedRows.Proofs.Registration
import TypedRows.Proofs.Actions
import TypedRows.Proofs.Sessions
import TypedRows.Proofs.Acceptance
import TypedRows.Proofs.Publications
import TypedRows.Proofs.Dispatch
import TypedRows.Proofs.Widening
import TypedRows.Proofs.Columns
import TypedRows.Proofs.Objects
import TypedRows.Proofs.RoundTrip
import TypedRows.Proofs.Decoding
import TypedRows.Proofs.Outcomes
import TypedRows.Proofs.Reencoding
import TypedRows.Proofs.KeyspaceReturn
import TypedRows.Proofs.KeyspaceNames
import TypedRows.Proofs.RootCache
import TypedRows.Proofs.TypeTags
import TypedRows.Proofs.Independence
import TypedRows.Proofs.Discovery
import TypedRows.Proofs.Violations
import TypedRows.Proofs.RowAgreement
import TypedRows.Proofs.Filling
import TypedRows.Proofs.KeyspaceResolution
import TypedRows.Proofs.ExcludedSpellings
import TypedRows.Proofs.WrittenRows
import TypedRows.Proofs.MandatoryColumns
import TypedRows.Proofs.TableConstruction
import TypedRows.Proofs.PrimaryKeys
import TypedRows.Proofs.WellFormedClasses
import TypedRows.Proofs.Conversions
import TypedRows.Proofs.AttributeAccess
import TypedRows.Proofs.ClassOrder
import TypedRows.Proofs.Reports
import TypedRows.Proofs.Announcements
import TypedRows.Proofs.RegistrationRuns
import TypedRows.Proofs.Identities
import TypedRows.Proofs.KindChecks
