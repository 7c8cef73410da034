import FacilityBooking.Client.Calls
import FacilityBooking.Main
import FacilityBooking.Network.Program
import FacilityBooking.Network.Scene
import FacilityBooking.Proofs.Desk.Bookable
import FacilityBooking.Proofs.Exchange.Remote
import FacilityBooking.Proofs.Service.Views
import FacilityBooking.Proofs.Desk.Numbers
import FacilityBooking.Proofs.Message.RequestCodec
import FacilityBooking.Proofs.Message.ResponseCodec
import FacilityBooking.Proofs.Desk.Pieces
import FacilityBooking.Proofs.Service.WellFormed
import FacilityBooking.Proofs.Service.Monitoring
import FacilityBooking.Proofs.Service.Sweeping
import FacilityBooking.Proofs.Desk.Isolation
import FacilityBooking.Proofs.Service.Usage
import FacilityBooking.Proofs.Service.Openings
import FacilityBooking.Proofs.Service.Watches
import FacilityBooking.Proofs.Desk.Names
import FacilityBooking.Proofs.Desk.Reordering
import FacilityBooking.Proofs.Desk.NewBooking
import FacilityBooking.Proofs.Desk.Tiling
import FacilityBooking.Proofs.Desk.Room
import FacilityBooking.Proofs.Service.Bounds
import FacilityBooking.Proofs.Service.Counting
import FacilityBooking.Proofs.Exchange.Accounts
import FacilityBooking.Proofs.Client.Sharing
import FacilityBooking.Proofs.Desk.Moving
import FacilityBooking.Proofs.Desk.Clearing
import FacilityBooking.Proofs.Client.Retrying
import FacilityBooking.Proofs.Ledger.LookUps
import FacilityBooking.Proofs.Desk.Shifting
import FacilityBooking.Proofs.Message.LongMessages
import FacilityBooking.Proofs.Client.Updates
import FacilityBooking.Proofs.Desk.TouchedDays
import FacilityBooking.Proofs.Desk.Subtraction
import FacilityBooking.Proofs.Calendar.Typing
import FacilityBooking.Proofs.Service.Environment
import FacilityBooking.Proofs.Ledger.Contents
