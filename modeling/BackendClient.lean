import BackendClient.Python.Dict
import BackendClient.Python.Builtins
import BackendClient.Messages.Advertiser
import BackendClient.Messages.Frame
import BackendClient.Api.Http.Status
import BackendClient.Api.Http.Handler
import BackendClient.Api.MySql
import BackendClient.Api.MySql.Statements
import BackendClient.Api.MySql.Workers
import BackendClient.Api.MySql.Accepted
import BackendClient.Api.Mqtt.Connector
import BackendClient.Management.Inventory
import BackendClient.Test.KpiAdv
