import TypedIds.Catalogue
import TypedIds.Expansion.Module
import TypedIds.Proofs.Declaration.WellFormed
import TypedIds.Proofs.Default.Order
import TypedIds.Proofs.Default.Rejection
import TypedIds.Proofs.Expansion.Crate
import TypedIds.Proofs.Expansion.Forms
import TypedIds.Proofs.Expansion.Independence
import TypedIds.Proofs.Expansion.Outcome
import TypedIds.Proofs.Expansion.Placement
import TypedIds.Proofs.Expansion.Stops
import TypedIds.Proofs.Generated.Fallibility
import TypedIds.Proofs.Generated.Positions
import TypedIds.Proofs.Grammar.Ahead
import TypedIds.Proofs.Grammar.Follows
import TypedIds.Proofs.Grammar.Type
import TypedIds.Proofs.Hook.Search
import TypedIds.Proofs.Hook.Shape
import TypedIds.Proofs.Identifier.Comparison
import TypedIds.Proofs.Marker.Args
import TypedIds.Proofs.Marker.Partition
import TypedIds.Proofs.Module.Candidates
import TypedIds.Proofs.Session.Agreement
import TypedIds.Proofs.Session.Hook
import TypedIds.Proofs.Session.RoundTrip
import TypedIds.Proofs.Session.Unspecified
import TypedIds.Proofs.Validity.Blame
import TypedIds.Proofs.Validity.Derives
import TypedIds.Proofs.Validity.Members
import TypedIds.Session
import TypedIds.Proofs.Identifier.Sorting
import TypedIds.Proofs.Session.Least
import TypedIds.Proofs.Catalogue.SkuCode
import TypedIds.Proofs.Identifier.Events
import TypedIds.Proofs.Naming.Property
import TypedIds.Proofs.Session.Reading
import TypedIds.Proofs.Expansion.Units
import TypedIds.Proofs.Grammar.Matching
import TypedIds.Proofs.Marker.Convention
