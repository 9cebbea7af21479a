import Cozyplane.BindingGrantsProofs
import Cozyplane.BoundaryPublishProofs
import Cozyplane.BoundarySoundProofs
import Cozyplane.ClaimTextProofs
import Cozyplane.FabricRoutesProofs
import Cozyplane.HfReplyProofs
import Cozyplane.HostFirewallProofs
import Cozyplane.HfBudgetProofs
import Cozyplane.KprRangesProofs
import Cozyplane.LbDoorProofs
import Cozyplane.LbReplyProofs
import Cozyplane.MigrateLeaseProofs
import Cozyplane.NatReplyProofs
import Cozyplane.NetworkSyncProofs
import Cozyplane.NpMalformedProofs
import Cozyplane.ResyncWorkerProofs
import Cozyplane.RevocationProofs
import Cozyplane.RouteFairProofs
import Cozyplane.SgIngressProofs
import Cozyplane.SgPlacementProofs
import Cozyplane.SteerIdentityProofs
import Cozyplane.SvcReplyProofs
import Cozyplane.VpnBlackholeProofs
import Cozyplane.WgClientsProofs
import Cozyplane.WgSearchProofs
import Cozyplane.SgIdsProofs
import Cozyplane.SvcVipProofs
import Cozyplane.IpsecFilterProofs
import Cozyplane.CounterScopesProofs
