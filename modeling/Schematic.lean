import Schematic.Http.Application
import Schematic.Http.Lifespan
import Schematic.Log.Line
import Schematic.Log.Template
import Schematic.Main
import Schematic.Source.Format
import Schematic.Store.Seed
import Schematic.Proofs.Source.Names
import Schematic.Proofs.Source.TypeGrammar
import Schematic.Proofs.Source.ClauseGrammar
import Schematic.Proofs.Graph.Entities
import Schematic.Proofs.Source.Sweeping
import Schematic.Proofs.Source.Document
import Schematic.Proofs.Source.Acceptance
import Schematic.Proofs.Source.Comments
import Schematic.Proofs.Source.TypeWriting
import Schematic.Proofs.Source.Coherence
import Schematic.Proofs.Source.ClauseWriting
import Schematic.Proofs.Source.RoundTrip
import Schematic.Proofs.Source.Integrity
import Schematic.Proofs.Service.Atomicity
import Schematic.Proofs.Service.Faithfulness
import Schematic.Proofs.Service.Sessions
import Schematic.Proofs.Graph.References
import Schematic.Proofs.Service.Linking
import Schematic.Proofs.Store.Soundness
import Schematic.Proofs.Service.Upkeep
import Schematic.Proofs.Service.Constraints
import Schematic.Proofs.Service.Announcing
import Schematic.Proofs.Service.Canonical
import Schematic.Proofs.Service.Denial
import Schematic.Proofs.Service.Likeness
import Schematic.Proofs.Service.Secrecy
import Schematic.Proofs.Source.Building
import Schematic.Proofs.Ddl.Execution
import Schematic.Proofs.Ddl.Needs
import Schematic.Proofs.Ddl.Setup
import Schematic.Proofs.Store.Telling
import Schematic.Proofs.Service.Telling
import Schematic.Proofs.Http.Escaping
import Schematic.Proofs.Service.Silence
import Schematic.Proofs.Service.Deliberation
import Schematic.Proofs.Service.History
import Schematic.Proofs.Service.Conversation
import Schematic.Proofs.Source.Pruning
import Schematic.Proofs.Source.Defaults
import Schematic.Proofs.Source.Addresses
import Schematic.Proofs.Ddl.Laying
import Schematic.Proofs.Ddl.Definitions
import Schematic.Proofs.Ddl.Decoding
import Schematic.Proofs.Source.Moving
import Schematic.Proofs.Source.Sorting
import Schematic.Proofs.Source.Accounting
import Schematic.Proofs.Source.Listing
import Schematic.Proofs.Source.Recovery
import Schematic.Proofs.Source.Reordering
import Schematic.Proofs.Source.Shuffling
import Schematic.Proofs.Source.Layout
import Schematic.Proofs.Config.Masking
import Schematic.Proofs.Json.Strings
import Schematic.Proofs.Drafting.Replies
import Schematic.Proofs.Source.Strict
import Schematic.Proofs.Source.Indexing
import Schematic.Proofs.Source.Unfailing
import Schematic.Proofs.Deploy.Conclusion
import Schematic.Proofs.Ddl.Optional
import Schematic.Proofs.Service.Wordless
import Schematic.Proofs.Ddl.ForeignKeys
import Schematic.Proofs.Source.ClauseOrder
import Schematic.Proofs.Config.Parting
