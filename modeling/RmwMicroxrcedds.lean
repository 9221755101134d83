import RmwMicroxrcedds.Properties.PoolIntegrity
import RmwMicroxrcedds.Properties.Isolation
import RmwMicroxrcedds.Properties.DeliveryOrder
import RmwMicroxrcedds.Properties.HandleCorrespondence
import RmwMicroxrcedds.Properties.InitAtomicity
import RmwMicroxrcedds.Properties.TopicOwnership
import RmwMicroxrcedds.Properties.Routing
import RmwMicroxrcedds.Properties.BagDelivery
import RmwMicroxrcedds.Properties.Identifiers
import RmwMicroxrcedds.Properties.CascadeTeardown
import RmwMicroxrcedds.Properties.RequestIdentity
import RmwMicroxrcedds.Properties.FailedReception
import RmwMicroxrcedds.Properties.RepeatedTeardown
import RmwMicroxrcedds.Properties.TeardownReport
import RmwMicroxrcedds.Properties.ServiceModes
import RmwMicroxrcedds.Properties.LosslessOptions
import RmwMicroxrcedds.Properties.GraphRoundTrip
import RmwMicroxrcedds.Properties.DynamicAllocations
import RmwMicroxrcedds.Properties.TakeSequence
import RmwMicroxrcedds.Properties.WaitReadiness
import RmwMicroxrcedds.Properties.WaitTimeouts
import RmwMicroxrcedds.Properties.FormatterTruncation
import RmwMicroxrcedds.Properties.PublisherGids
import RmwMicroxrcedds.Properties.EndpointCounts
import RmwMicroxrcedds.Properties.NodeNames
import RmwMicroxrcedds.Properties.NamesAndTypes
import RmwMicroxrcedds.Properties.OptionAtomicity
import RmwMicroxrcedds.Properties.PoolRefinement
import RmwMicroxrcedds.Properties.LockBalance
import RmwMicroxrcedds.Properties.AgentTraffic
import RmwMicroxrcedds.Properties.OptionValues
import RmwMicroxrcedds.Properties.DdsNames
import RmwMicroxrcedds.Properties.AgentMirror
import RmwMicroxrcedds.Properties.SessionsApart
import RmwMicroxrcedds.Properties.ResponseCorrelation
import RmwMicroxrcedds.Model.Ping
import RmwMicroxrcedds.Properties.CleanSlate
import RmwMicroxrcedds.Properties.NewestSession
