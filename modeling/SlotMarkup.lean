import SlotMarkup.Main
import SlotMarkup.Template.Trace
import SlotMarkup.Template.View
import SlotMarkup.Proofs.Emission
import SlotMarkup.Proofs.SplitText
import SlotMarkup.Proofs.PartCodec
import SlotMarkup.Proofs.PartRange
import SlotMarkup.Proofs.Siblings
import SlotMarkup.Proofs.Linear
import SlotMarkup.Proofs.Anchors
import SlotMarkup.Proofs.Separation
import SlotMarkup.Proofs.Addresses
import SlotMarkup.Proofs.PartRoundTrip
import SlotMarkup.Proofs.Demands
import SlotMarkup.Proofs.Liveness
import SlotMarkup.Proofs.Loading
import SlotMarkup.Proofs.NormalForm
import SlotMarkup.Proofs.UnitRuns
import SlotMarkup.Proofs.Pictures
import SlotMarkup.Proofs.TreeGrammar
import SlotMarkup.Proofs.ErrorKinds
import SlotMarkup.Proofs.AttributeRuns
import SlotMarkup.Proofs.ElementCalls
import SlotMarkup.Proofs.SingleSlots
import SlotMarkup.Proofs.CollapsedText
import SlotMarkup.Proofs.NeighbouringTexts
import SlotMarkup.Proofs.TextJoining
import SlotMarkup.Proofs.DynamicRuns
import SlotMarkup.Proofs.PartReading
import SlotMarkup.Proofs.PartSpelling
import SlotMarkup.Proofs.HelperImports
import SlotMarkup.Proofs.JoinedLines
import SlotMarkup.Proofs.AttributeMarkup
import SlotMarkup.Proofs.IdentifierTokens
import SlotMarkup.Proofs.ComponentNames
import SlotMarkup.Proofs.SearchOrder
import SlotMarkup.Proofs.CommandReports
