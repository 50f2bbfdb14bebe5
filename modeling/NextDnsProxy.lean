import NextDnsProxy.Proxy.BufferPool
import NextDnsProxy.Proxy.Framing
import NextDnsProxy.Proxy.Conn
import NextDnsProxy.Proxy.ConnSteps
import NextDnsProxy.Proxy.Ownership
import NextDnsProxy.Proxy.Accounting
import NextDnsProxy.Proxy.TaskPath
import NextDnsProxy.Proxy.Dispatch
import NextDnsProxy.Proxy.Reply
import NextDnsProxy.Proxy.Output
import NextDnsProxy.Proxy.Progress
import NextDnsProxy.Proxy.Served
import NextDnsProxy.Proxy.Server
import NextDnsProxy.Proxy.ServerInv
import NextDnsProxy.Proxy.ServerOutput
import NextDnsProxy.Proxy.ServerProgress
import NextDnsProxy.Proxy.ServerDispatch
import NextDnsProxy.Proxy.ServerServed
import NextDnsProxy.Proxy.QueryLog
import NextDnsProxy.Endpoint.TransportH2
