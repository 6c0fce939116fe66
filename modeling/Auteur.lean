import Auteur.Basic
import Auteur.StreamProducer.Basic
import Auteur.StreamProducer.Membership
import Auteur.StreamProducer.Delivery
import Auteur.StreamProducer.Flags
import Auteur.StreamProducer.AppSrcs
import Auteur.Gst
import Auteur.Control
import Auteur.Mixer.Basic
import Auteur.Mixer.Slots
import Auteur.Mixer.Controllers
import Auteur.Mixer.MixingState
import Auteur.Mixer.Pipeline
import Auteur.Mixer.Actor
import Auteur.Mixer.Invariants
import Auteur.Mixer.Wiring
import Auteur.Mixer.Safety
import Auteur.Mixer.Bindings
