import Handover.Main
import Handover.Rehearsal.Play
import Handover.Rehearsal.Securing
import Handover.Proofs.Session.Outbound
import Handover.Proofs.Session.Inbound
import Handover.Proofs.Session.Cancelling
import Handover.Proofs.Session.Ownership
import Handover.Proofs.Session.Interruption
import Handover.Proofs.Session.Failing
import Handover.Proofs.Session.Pausing
import Handover.Proofs.Rehearsal.Silence
import Handover.Proofs.Bundle.Discretion
import Handover.Proofs.Session.Advertising
import Handover.Proofs.Interactor.Single
import Handover.Proofs.Rehearsal.Delivery
import Handover.Proofs.Frame.Grammar
import Handover.Proofs.Frame.Intake
import Handover.Proofs.Session.Reception
import Handover.Proofs.Rehearsal.Likeness
import Handover.Proofs.Bundle.Spelling
import Handover.Proofs.Bundle.Stability
import Handover.Proofs.Session.Discarding
import Handover.Proofs.Rehearsal.Refusing
import Handover.Proofs.Session.Ceasing
import Handover.Proofs.CommandLine.Keeping
import Handover.Proofs.CommandLine.Unasked
import Handover.Proofs.Address.Search
