import Boomerang.Answer.Frame
import Boomerang.Assignment
import Boomerang.Compose
import Boomerang.Cursor.Summary
import Boomerang.Main
import Boomerang.Session
import Boomerang.Topology.Affinity
import Boomerang.Topology.Sysfs
import Boomerang.Proofs.Integrity
import Boomerang.Proofs.OuterLengths
import Boomerang.Proofs.Transparency
import Boomerang.Proofs.Ownership
import Boomerang.Proofs.Station
import Boomerang.Proofs.Drain
import Boomerang.Proofs.Placement
import Boomerang.Proofs.Silence
import Boomerang.Proofs.Padding
import Boomerang.Proofs.Passage
import Boomerang.Proofs.Positions
import Boomerang.Proofs.Footprint
import Boomerang.Proofs.Involution
import Boomerang.Proofs.Advertisement
import Boomerang.Proofs.Decapsulation
import Boomerang.Proofs.EndAroundCarry
import Boomerang.Proofs.Reception
import Boomerang.Proofs.Failures
import Boomerang.Proofs.Reporting
import Boomerang.Proofs.Departure
import Boomerang.Proofs.Hardware
import Boomerang.Proofs.CpuItems
import Boomerang.Proofs.DeviceSpec
import Boomerang.Proofs.HopLimit
import Boomerang.Proofs.Layout
import Boomerang.Proofs.Lossless
import Boomerang.Proofs.Builders
import Boomerang.Proofs.Settings
import Boomerang.Proofs.Nodes
import Boomerang.Proofs.InBounds
