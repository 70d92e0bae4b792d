import FormGrid.Container
import FormGrid.Host.Table
import FormGrid.Proofs.Exact
import FormGrid.Proofs.Sizing.MinSizes
import FormGrid.Proofs.Sizing.Shares
import FormGrid.Proofs.Sizing.Edges
import FormGrid.Proofs.Sizing.Distribution
import FormGrid.Proofs.Sizing.Idle
import FormGrid.Proofs.Sizing.Stretches
import FormGrid.Proofs.Sizing.Least
import FormGrid.Proofs.Sizing.Reordered
import FormGrid.Proofs.Cells
import FormGrid.Proofs.Laid
import FormGrid.Proofs.Shown
import FormGrid.Proofs.Nesting
import FormGrid.Proofs.Demands
import FormGrid.Proofs.Determined
import FormGrid.Proofs.Cellwise
import FormGrid.Proofs.Placed
import FormGrid.Proofs.Sufficiency
import FormGrid.Proofs.Resizing
import FormGrid.Proofs.Deficits
import FormGrid.Proofs.Measuring
import FormGrid.Proofs.Containment
import FormGrid.Proofs.Slots
import FormGrid.Proofs.Mirror
import FormGrid.Proofs.Unseen
import FormGrid.Proofs.Addresses
import FormGrid.Proofs.Occupancy
import FormGrid.Proofs.Calls
import FormGrid.Proofs.Agreement
import FormGrid.Proofs.Removal
import FormGrid.Proofs.Idle
import FormGrid.Proofs.Restyled
import FormGrid.Proofs.Lines
import FormGrid.Proofs.Questions
import FormGrid.Proofs.Reordered
import FormGrid.Proofs.Separation
import FormGrid.Proofs.Sizing.Overflow
import FormGrid.Proofs.Moved
import FormGrid.Proofs.Sizing.Lookups
import FormGrid.Proofs.InPlace
import FormGrid.Proofs.Plan.Lookups
import FormGrid.Proofs.Plan.Stages
import FormGrid.Proofs.Plan.Passes
import FormGrid.Proofs.Plan.Places
import FormGrid.Proofs.Plan.Range
