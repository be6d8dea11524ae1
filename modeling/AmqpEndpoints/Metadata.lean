import AmqpEndpoints.Table

/-!
# Metadata

The named texts that travel with a message, and the names that this library reads and writes.
-/

set_option autoImplicit false

namespace AmqpEndpoints

abbrev Metadata := Table String

namespace Metadata.Key

def queue : String := "rmqQueue"
def consumerTag : String := "rmqConsumerTag"
def deliveryTag : String := "rmqDeliveryTag"
def isRedelivery : String := "rmqIsRedelivery"
def exchange : String := "rmqExchange"
def routingKey : String := "rmqRoutingKey"
def appId : String := "rmqAppId"
def classId : String := "rmqClassId"
def clusterId : String := "rmqClusterId"
def contentEncoding : String := "rmqContentEncoding"
def contentType : String := "rmqContentType"
def correlationId : String := "rmqCorrelationId"
def deliveryMode : String := "rmqDeliveryMode"
def expiration : String := "rmqExpiration"
def messageId : String := "rmqMessageId"
def priority : String := "rmqPriority"
def replyTo : String := "rmqReplyTo"
def timestamp : String := "rmqTimestamp"
def kind : String := "rmqType"
def userId : String := "rmqUserId"

/-- Tells how publishing a message went, where publishing reports no failure. -/
def publishStatus : String := "queue_publish_status"

end Metadata.Key

end AmqpEndpoints
