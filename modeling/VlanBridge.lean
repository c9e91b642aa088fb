import VlanBridge.PortSet
import VlanBridge.Text.Hex
import VlanBridge.Text.Duration
import VlanBridge.Frame
import VlanBridge.Counters
import VlanBridge.Reclaimer
import VlanBridge.Ordered
import VlanBridge.PortTable
import VlanBridge.VlanDb
import VlanBridge.Data.Json
import VlanBridge.Codec.Control
import VlanBridge.Bridge.Observer
import VlanBridge.Data.Toml
import VlanBridge.Data.Toml.Writer
import VlanBridge.Config.File
import VlanBridge.Topology
import VlanBridge.Codec.Scenario
import VlanBridge.Traffic
import VlanBridge.Simulation
import VlanBridge.Options
import VlanBridge.Main
import VlanBridge.Codec.Operation
import VlanBridge.Codec.Tables
import VlanBridge.Proofs.Reclamation
import VlanBridge.Proofs.Slots
import VlanBridge.Proofs.VlanRecords
import VlanBridge.Proofs.Integrity
import VlanBridge.Proofs.Networks
import VlanBridge.Proofs.Forwarding
import VlanBridge.Proofs.OtherVlans
import VlanBridge.Proofs.Lockstep
import VlanBridge.Proofs.Isolation
import VlanBridge.Proofs.WellFormedEntries
import VlanBridge.Proofs.PortRecords
import VlanBridge.Proofs.NamedPorts
import VlanBridge.Proofs.Handles
import VlanBridge.Proofs.FramesInFlight
import VlanBridge.Proofs.Admissions
import VlanBridge.Proofs.InBandTags
import VlanBridge.Proofs.Trunks
import VlanBridge.Proofs.Surroundings
import VlanBridge.Proofs.Accounts
import VlanBridge.Proofs.Enslavement
import VlanBridge.Proofs.Stations
import VlanBridge.Proofs.Population
import VlanBridge.Proofs.AgeingTask
import VlanBridge.Proofs.NoFaults
import VlanBridge.Proofs.VlanHistories
import VlanBridge.Proofs.Masters
import VlanBridge.Proofs.Topologies
import VlanBridge.Proofs.Furnishings
import VlanBridge.Proofs.Reversals
import VlanBridge.Proofs.Renewals
import VlanBridge.Proofs.Buildable
import VlanBridge.Proofs.AddressTexts
import VlanBridge.Proofs.ControlData
import VlanBridge.Proofs.FailedDetachments
import VlanBridge.Proofs.UnknownPorts
import VlanBridge.Proofs.GroupEntries
import VlanBridge.Proofs.Flushes
import VlanBridge.Proofs.Sightings
import VlanBridge.Proofs.Workers
import VlanBridge.Proofs.StationsAtHome
import VlanBridge.Proofs.IdleTimes
import VlanBridge.Proofs.FramesInPlace
import VlanBridge.Proofs.Classifications
import VlanBridge.Proofs.ReceptionEffects
import VlanBridge.Proofs.ReleaseOrder
import VlanBridge.Proofs.VlanPolicies
import VlanBridge.Proofs.VlanDeletions
import VlanBridge.Proofs.PortDeletions
import VlanBridge.Proofs.SteadyDevices
import VlanBridge.Proofs.Shutdowns
import VlanBridge.Proofs.Passages
import VlanBridge.Proofs.Senders
import VlanBridge.Proofs.Tallies
import VlanBridge.Proofs.Agreements
import VlanBridge.Proofs.Spellings
import VlanBridge.Proofs.PortAlgebra
import VlanBridge.Proofs.PortListings
