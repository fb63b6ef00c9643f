/-
SchemaDoc.Text.Names.From0A000 — the names of the characters from U+A000 on.

The block holds the syllables of Yi and further scripts, and forms of presentation.
How it is written is said where it is read.
-/

namespace SchemaDoc.Text.Names

/-- The names from U+A000 on. -/
def from0A000 : String :=
  "aYI SYLLABLE IT,bX,b,aP,bET,bX,b,aP,dAT,bX,b,aP,cUOX,b,aP,dOT,bX,b,aP,cEX,b,bWU,cBIT,bX,b,aP,bET
bX,b,aP,dAT,bX,b,aP,cUOX,b,aP,dOT,bX,b,aP,cEX,b,aP,cUT,bX,b,aP,bRX,b,cYT,bX,b,aP,bRX,b,dPIT,bX,b,aP
bEX,b,aP,dAT,bX,b,aP,cUOX,b,aP,dOT,bX,b,aP,cUT,bX,b,aP,bRX,b,cYT,bX,b,aP,bRX,b,dBBIT,bX,b,aP,bET,bX
b,aP,dAT,bX,b,aP,cUOX,b,aP,dOT,bX,b,aP,cEX,b,aP,cUT,bX,b,aP,bRX,b,cYT,bX,b,aP,eNBIT,bX,b,aP,bEX,b
aP,dAT,bX,b,aP,cOT,bX,b,aP,cUT,bX,b,aP,bRX,b,cYT,bX,b,aP,bRX,b,eHMIT,bX,b,aP,bEX,b,aP,dAT,bX,b,aP
cUOX,b,aP,dOT,bX,b,aP,cUT,bX,b,aP,bRX,b,cYX,b,aP,bRX,b,eMIT,bX,b,aP,bEX,b,aP,dAT,bX,b,aP,cUOT,bX,b
aP,dOT,bX,b,aP,cEX,b,bUT,bX,b,aP,bRX,b,cYT,bX,b,aP,dFIT,bX,b,aP,cAT,bX,b,aP,cOX,b,aP,cUT,bX,b,aP
bRX,b,cYT,bX,b,aP,dVIT,bX,b,aP,bET,bX,b,aP,dAT,bX,b,aP,cOT,bX,b,aP,cEX,bP,cUT,bX,b,aP,bRX,b,cYT,bX
b,aP,bRX,b,dDIT,bX,b,aP,bEX,b,aP,dAT,bX,b,aP,cUOX,b,cOT,bX,b,aP,cEX,b,aP,cUT,bX,b,aP,bRX,b,dTIT,bX
b,aP,bEX,b,aP,dAT,bX,b,aP,cUOT,bX,b,aP,dOT,bX,b,aP,cEX,b,aP,cUT,bX,b,aP,bRX,b,dDDIT,bX,b,aP,bEX,b
aP,dAT,bX,b,aP,cUOX,b,aP,dOT,bX,b,aP,cEX,b,aP,cUT,bX,b,aP,bRX,b,eNDIT,bX,b,aP,bEX,b,cAT,bX,b,aP,cOT
bX,b,aP,cEX,b,aP,cUT,bX,b,aP,bRX,b,eHNIT,bX,b,aP,bET,bX,b,aP,dAT,bX,b,aP,cUOX,b,cOT,bX,bP,cEX,b,aP
cUT,eNIT,bX,b,aP,bEX,b,aP,dAX,b,aP,cUOX,b,aP,dOT,bX,b,aP,cEX,b,aP,cUT,bX,b,aP,bRX,b,dHLIT,bX,b,aP
bEX,b,aP,dAT,bX,b,aP,cUOX,b,aP,dOX,b,aP,cEX,b,aP,cUT,bX,b,aP,bRX,b,cYT,bX,b,aP,bRX,b,eLIT,bX,b,aP
bET,bX,b,aP,dAT,bX,b,aP,cUOT,bX,b,aP,dOT,bX,b,aP,cEX,b,aP,cUT,bX,b,aP,bRX,b,cYT,bX,b,aP,bRX,b,dGIT
bX,b,aP,bET,bX,b,aP,dAT,bX,b,aP,cUOT,bX,b,aP,dOT,bX,b,aP,cET,bX,b,aP,cUT,bX,b,aP,bRX,b,dKIT,bX,b,aP
bEX,b,aP,dAT,bX,b,aP,cUOX,b,aP,dOT,bX,b,aP,cET,bX,b,aP,cUT,bX,b,aP,bRX,b,dGGIT,bX,b,aEX,b,aP,dAT,bX
b,aP,cUOT,bX,b,aP,dOT,bX,b,aP,cET,bX,b,aP,cUT,bX,b,aP,bRX,b,eMGIEX,b,cAT,bX,b,aP,cUOX,b,aP,dOT,bX,b
aP,cEX,b,aP,cUT,bX,b,aP,bRX,b,eHXIT,bX,b,aP,bET,bX,b,aP,dAT,bX,b,aP,cUOT,bX,b,aP,dOT,bX,b,aP,cEX,b
aP,eNGIEX,b,aP,dAT,bX,b,aP,cUOT,bX,b,cOT,bX,b,aP,cEX,b,aP,eHIT,bEX,b,cAT,bX,b,aP,cUOT,bX,b,aP,dOT
bX,b,aP,cEX,b,aP,dWAT,bX,b,aP,cUOX,b,aP,dOX,b,aP,cEX,b,aP,dZIT,bX,b,aP,bEX,b,aP,dAT,bX,b,aP,cUOX,b
aP,dOT,bX,b,aP,cEX,b,aP,cUT,bX,b,aP,bRX,b,cYT,bX,b,aP,bRX,b,dCIT,bX,b,aP,bET,bX,b,aP,dAT,bX,b,aP
cUOX,b,aP,dOT,bX,b,aP,cEX,b,aP,cUT,bX,b,aP,bRX,b,cYT,bX,b,aP,bRX,b,dZZIT,bX,b,aP,bET,bX,b,aP,dAT,bX
b,aP,cOX,b,aP,cEX,b,aP,cUX,b,aP,bRX,b,cYT,bX,b,aP,bRX,b,eNZIT,bX,b,aP,bEX,b,aP,dAT,bX,b,aP,cUOX,b
cOX,bP,cEX,b,bUX,b,aP,bRX,b,cYT,bX,b,aP,bRX,b,eSIT,bX,b,aP,bEX,b,aP,dAT,bX,b,aP,cUOX,b,aP,dOT,bX,b
aP,cEX,b,aP,cUT,bX,b,aP,bRX,b,cYT,bX,b,aP,bRX,b,cSIT,bX,b,aP,bEX,b,aP,dAT,bX,b,aP,cOT,bX,b,aP,cEX,b
aP,cUT,bX,b,aP,cYT,bX,b,aP,bRX,b,eZHAT,bX,b,aP,cUOX,b,aP,dOT,bX,b,aP,cET,bX,b,aP,cUT,bX,b,aP,bRX,b
cYT,bX,b,aP,bRX,b,eCHAT,bX,b,aP,cUOT,bX,b,aP,dOT,bX,b,aP,cET,bX,b,aP,cUX,b,aP,bRX,b,cYT,bX,b,aP,bRX
b,eRRAX,b,bUOX,b,cOT,bX,b,aP,cET,bX,b,aP,cUT,bX,b,aP,bRX,b,cYT,bX,b,aP,bRX,b,eNRAT,bX,b,aP,cOX,b,aP
cET,bX,b,aP,cUT,bX,b,aP,bRX,b,cYT,bX,b,aP,bRX,b,eSHAT,bX,b,aP,cUOX,b,aP,dOT,bX,b,aP,cET,bX,b,aP,cUT
bX,b,aP,bRX,b,cYT,bX,b,aP,bRX,b,eRAT,bX,b,aP,cUOX,b,aP,dOT,bX,b,aP,cEX,b,aP,cUT,bX,b,aP,bRX,b,cYT
bX,b,aP,bRX,b,dJIT,bX,b,aP,bET,bX,b,aP,dUOT,bX,b,aP,dOT,bX,b,aP,cUT,bX,b,aP,bRX,b,cYT,bX,b,aP,bRX,b
dQIT,bX,b,aP,bET,bX,b,aP,dUOT,bX,b,aP,dOT,bX,b,aP,cUT,bX,b,aP,bRX,b,cYT,bX,b,aP,bRX,b,dJJIT,bX,b,aP
bET,bX,b,aP,dUOX,b,aP,dOT,bX,b,aP,cUT,bX,b,aP,bRX,b,cYT,bX,b,aP,eNJIT,bX,b,aP,bET,bX,b,aP,dUOX,b
cOT,bX,b,aP,cUX,b,aP,bRX,b,cYT,bX,b,aP,bRX,b,dYIT,bX,b,aP,bET,bX,b,aP,dUOX,b,aP,dOT,bX,b,aP,cUT,bX
b,aP,eXIT,bX,b,aP,bET,bX,b,aP,dUOX,b,cOT,bX,b,aP,cYT,bX,b,aP,bRX,b,dYIT,bX,b,aP,bET,bX,b,aP,dUOT,bX
b,aP,dOT,bX,b,aP,cUT,bX,b,aP,bRX,b,cYT,bX,b,aP,bRX,b,+3,mRADICAL QOT,dLI,cKIT,dNYIP,eCYP,dSSI,dGGOP
dEP,dMI,cHXIT,eLYR,dBBUT,eMOP,dYO,cPUT,dHXUO,eTAT,dGA,cZUP,dCYT,dDDUR,eBUR,dGGUO,eNYOP,eTU,cOP
cJJUT,eZOT,dPYT,dHMO,dYIT,dVUR,dSHY,dVEP,dZA,cJO,cNZUP,eJJY,dGOT,dJJIE,eWO,cDU,cSHUR,eLIE,dCY,bUOP
dIP,dHXOP,eSHAT,eZUR,dSHOP,eCHE,dZZIET,fNBIE,eKE,+9,nLISU LETTER BA,cPA,bHA,dDA,cTA,bHA,dGA,cKA,bHA
dJA,cCA,bHA,dDZA,dTSA,bHA,eMA,cNA,cLA,cSA,cZHA,cA,cNGA,dHA,cXA,cHHA,dFA,cWA,cSHA,dYA,cGHA,dA,aE,cE
aU,cI,bO,bU,aE,bH,cOE,cTONE MYA TI,gNA PO,fMYA CYA,dBO,cNA,cJEU,tPUNCTUATION COMMA,fFULL STOP
zbVAI SYLLABLE EE,aN,dHEE,dWEE,aN,ePEE,dBHEE,dEE,dMBEE,eKPEE,eMGBEE,fGBEE,eFEE,dVEE,dTEE,cHEE,eDHEE
cHEE,fLEE,dREE,dDEE,dNDEE,eSEE,cHEE,eZEE,cHEE,eCEE,dJEE,dNJEE,eYEE,dKEE,dNGGEE,fGEE,dMEE,dNEE,cYEE
eI,aN,cHI,aN,dWI,aN,dPI,cBHI,cI,cMBI,dKPI,dMGBI,eGBI,dFI,cVI,cTI,bHI,dDHI,bHI,eLI,cRI,cDI,cNDI,dSI
bHI,dZI,bHI,dCI,cJI,cNJI,dYI,cKI,cNGGI,eGI,cMI,cNI,bYI,dA,aN,cNGAN,eHA,aN,dWA,aN,dPA,cBHA,cA,cMBA
dKPA,aN,eMGBA,eGBA,dFA,cVA,cTA,bHA,dDHA,bHA,eLA,cRA,cDA,cNDA,dSA,bHA,dZA,bHA,dCA,cJA,cNJA,dYA,cKA
aN,dNGGA,eGA,cMA,cNA,bYA,dOO,aN,dHOO,dWOO,aN,ePOO,dBHOO,dOO,dMBOO,eKPOO,eMGBOO,fGBOO,eFOO,dVOO,dTOO
cHOO,eDHOO,cHOO,fLOO,dROO,dDOO,dNDOO,eSOO,cHOO,eZOO,cHOO,eCOO,dJOO,dNJOO,eYOO,dKOO,dNGGOO,fGOO,dMOO
dNOO,cYOO,eU,aN,cHU,aN,dWU,aN,dPU,cBHU,cU,cMBU,dKPU,dMGBU,eGBU,dFU,cVU,cTU,bHU,dDHU,bHU,eLU,cRU,cDU
cNDU,dSU,bHU,dZU,bHU,dCU,cJU,cNJU,dYU,cKU,cNGGU,eGU,cMU,cNU,bYU,dO,aN,cNGON,eHO,aN,dWO,aN,dPO,cBHO
cO,cMBO,dKPO,dMGBO,eGBO,aN,eFO,cVO,cTO,bHO,dDHO,bHO,eLO,cRO,cDO,cNDO,dSO,bHO,dZO,bHO,dCO,cJO,cNJO
dYO,cKO,cNGGO,eGO,cMO,cNO,bYO,dE,aN,cNGEN,eHE,aN,dWE,aN,dPE,cBHE,cE,cMBE,dKPE,aN,eMGBE,eGBE,aN,eFE
cVE,cTE,bHE,dDHE,bHE,eLE,cRE,cDE,cNDE,dSE,bHE,dZE,bHE,dCE,cJE,cNJE,dYE,cKE,cNGGE,aN,fGE,aN,dME,cNE
bYE,cG,cLENGTHENER,tCOMMA,fFULL STOP,jQUESTION MARK,nSYLLABLE NDOLE FA,cKA,cSOO,qMBOL FEENG,fKEENG
fTING,eNII,dBANG,eFAA,dTAA,dDANG,dOONG,fKUNG,eTONG,eDO-O,eJONG,lDIGIT ZERO,eONE,dTWO,cHREE,fFOUR
dIVE,eSIX,cEVEN,fEIGHT,fNINE,kSYLLABLE NDOLE MA,cDO,+20,vCYRILLIC CAPITAL LETTER ZEMLYA
vSMALL LETTER ZEMLYA,tCAPITAL LETTER DZELO,uSMALL LETTER DZELO,sCAPITAL LETTER REVERSED DZE
zcSMALL LETTER REVERSED DZE,zaCAPITAL LETTER IOTA,tSMALL LETTER IOTA,rCAPITAL LETTER DJERV
uSMALL LETTER DJERV,sCAPITAL LETTER MONOGRAPH UK,zcSMALL LETTER MONOGRAPH UK
zaCAPITAL LETTER BROAD OMEGA,zbSMALL LETTER BROAD OMEGA,yCAPITAL LETTER NEUTRAL YER
zbSMALL LETTER NEUTRAL YER,yCAPITAL LETTER YERU WITH BACK YER,ziSMALL LETTER YERU WITH BACK YER
zgCAPITAL LETTER IOTIFIED YAT,zcSMALL LETTER IOTIFIED YAT,zaCAPITAL LETTER REVERSED YU
zbSMALL LETTER REVERSED YU,yCAPITAL LETTER IOTIFIED A,zaSMALL LETTER IOTIFIED A
xCAPITAL LETTER CLOSED LITTLE YUS,zhSMALL LETTER CLOSED LITTLE YUS,zfCAPITAL LETTER BLENDED YUS
zbSMALL LETTER BLENDED YUS,yCAPITAL LETTER IOTIFIED CLOSED LITTLE YUS
zqSMALL LETTER IOTIFIED CLOSED LITTLE YUS,zoCAPITAL LETTER YN,rSMALL LETTER YN
pCAPITAL LETTER REVERSED TSE,zcSMALL LETTER REVERSED TSE,zaCAPITAL LETTER SOFT DE
wSMALL LETTER SOFT DE,uCAPITAL LETTER SOFT EL,wSMALL LETTER SOFT EL,uCAPITAL LETTER SOFT EM
wSMALL LETTER SOFT EM,uCAPITAL LETTER MONOCULAR O,zbSMALL LETTER MONOCULAR O
yCAPITAL LETTER BINOCULAR O,zbSMALL LETTER BINOCULAR O,yCAPITAL LETTER DOUBLE MONOCULAR O
ziSMALL LETTER DOUBLE MONOCULAR O,zgLETTER MULTIOCULAR O,zdOMBINING CYRILLIC VZMET
fTEN MILLIONS SIGN,rHUNDRED MILLIONS SIGN,vTHOUSAND MILLIONS SIGN,zqSLAVONIC ASTERISK
rCOMBINING CYRILLIC LETTER UKRAINIAN IE,mI,bYI,cU,bHARD SIGN,jYERU,eSOFT SIGN,jOMEGA,mKAVYKA
gPAYEROK,zaYRILLIC KAVYKA,gPAYEROK,hCAPITAL LETTER DWE,sSMALL LETTER DWE,qCAPITAL LETTER DZWE
tSMALL LETTER DZWE,rCAPITAL LETTER ZHWE,tSMALL LETTER ZHWE,rCAPITAL LETTER CCHE,tSMALL LETTER CCHE
rCAPITAL LETTER DZZE,tSMALL LETTER DZZE,rCAPITAL LETTER TE WITH MIDDLE HOOK
zjSMALL LETTER TE WITH MIDDLE HOOK,zhCAPITAL LETTER TWE,sSMALL LETTER TWE,qCAPITAL LETTER TSWE
tSMALL LETTER TSWE,rCAPITAL LETTER TSSE,tSMALL LETTER TSSE,rCAPITAL LETTER TCHE,tSMALL LETTER TCHE
rCAPITAL LETTER HWE,sSMALL LETTER HWE,qCAPITAL LETTER SHWE,tSMALL LETTER SHWE
rCAPITAL LETTER DOUBLE O,xSMALL LETTER DOUBLE O,vCAPITAL LETTER CROSSED O,ySMALL LETTER CROSSED O
zgMODIFIER LETTER CYRILLIC HARD SIGN,jSOFT SIGN,zjCOMBINING CYRILLIC LETTER EF,cIOTIFIED E
zlBAMUM LETTER A,bKA,cU,bKU,cEE,cREE,dTAE,dO,bNYI,dI,bLA,cPA,cRII,bEE,eLEEEE,fMEEEE,fTAA,dNDAA
dJAEM,fM,bSUU,dMU,cSHII,dI,bHEUX,eEUX,eKYEE,dET,dNUAE,c,bJUAE,fYOQ,dSHU,dYUQ,cA,cNSHA,eKEUX,ePEUX
eNJEE,dTEE,ePUE,dWUE,dPEE,dFEE,dRU,cLU,cMI,cNI,cREUX,dAE,dKEN,dNGKWAEN,fGA,cA,dSHO,dPUAE,eFU,bOM
dWA,cNA,cLI,cPI,cLOQ,dKO,cMBEN,eREN,dMEN,cA,cTI,cKI,cMO,bBAA,eTET,dKPA,dTEN,dNTUU,eSAMBA,fFAAMAE
gKOVUU,dGHOM,nCOMBINING MARK KOQNDON,hTUKWENTIS,yNJAEMLI,hFULL STOP,jCOLON,dMMA,fSEMICOLON
jQUESTION MARK,+8,tMODIFIER LETTER CHINESE TONE YIN PING,hANG PING,iIN SHANG,iANG SHANG,jIN QU
fANG QU,gIN RU,fANG RU,uEXTRA-HIGH DOTTED TONE BAR,zbHIGH DOTTED TONE BAR,uMID DOTTED TONE BAR
tLOW DOTTED TONE BAR,tEXTRA-LOW DOTTED TONE BAR,tHIGH DOTTED LEFT-STEM TONE BAR
zlHIGH DOTTED LEFT-STEM TONE BAR,zfMID DOTTED LEFT-STEM TONE BAR,zeLOW DOTTED LEFT-STEM TONE BAR
zeEXTRA-LOW DOTTED LEFT-STEM TONE BAR,zeHIGH LEFT-STEM TONE BAR,zeHIGH LEFT-STEM TONE BAR
xMID LEFT-STEM TONE BAR,wLOW LEFT-STEM TONE BAR,wEXTRA-LOW LEFT-STEM TONE BAR,zdDOT VERTICAL BAR
mSLASH,fHORIZONTAL BAR,sLOWER RIGHT CORNER ANGLE,yRAISED UP ARROW,iDOWN ARROW,kEXCLAMATION MARK
qINVERTED EXCLAMATION MARK,zhLOW INVERTED EXCLAMATION MARK,zeSTRESS AND HIGH TONE,jLOW TONE
zkLATIN CAPITAL LETTER EGYPTOLOGICAL ALEF,ziSMALL LETTER EGYPTOLOGICAL ALEF
zgCAPITAL LETTER EGYPTOLOGICAL AIN,zhSMALL LETTER EGYPTOLOGICAL AIN,zfCAPITAL LETTER HENG
tSMALL LETTER HENG,rCAPITAL LETTER TZ,rSMALL LETTER TZ,pCAPITAL LETTER TRESILLO
xSMALL LETTER TRESILLO,vCAPITAL LETTER CUATRILLO,ySMALL LETTER CUATRILLO
wCAPITAL LETTER CUATRILLO WITH COMMA,zkSMALL LETTER CUATRILLO WITH COMMA,ziLETTER SMALL CAPITAL F
bS,wCAPITAL LETTER AA,rSMALL LETTER AA,pCAPITAL LETTER AO,rSMALL LETTER AO,pCAPITAL LETTER AU
rSMALL LETTER AU,pCAPITAL LETTER AV,rSMALL LETTER AV,pCAPITAL LETTER AV WITH HORIZONTAL BAR
zmSMALL LETTER AV WITH HORIZONTAL BAR,zkCAPITAL LETTER AY,rSMALL LETTER AY
pCAPITAL LETTER REVERSED C WITH DOT,zjSMALL LETTER REVERSED C WITH DOT
zhCAPITAL LETTER K WITH STROKE,zdSMALL LETTER K WITH STROKE,zbCAPITAL LETTER K WITH DIAGONAL STROKE
zmSMALL LETTER K WITH DIAGONAL STROKE,zkCAPITAL LETTER K WITH STROKE AND DIAGONAL STROKE
zxSMALL LETTER K WITH STROKE AND DIAGONAL STROKE,zvCAPITAL LETTER BROKEN L,xSMALL LETTER BROKEN L
vCAPITAL LETTER L WITH HIGH STROKE,ziSMALL LETTER L WITH HIGH STROKE
zgCAPITAL LETTER O WITH LONG STROKE OVERLAY,zqSMALL LETTER O WITH LONG STROKE OVERLAY
zoCAPITAL LETTER O WITH LOOP,zbSMALL LETTER O WITH LOOP,yCAPITAL LETTER OO,rSMALL LETTER OO
pCAPITAL LETTER P WITH STROKE THROUGH DESCENDER,zvSMALL LETTER P WITH STROKE THROUGH DESCENDER
ztCAPITAL LETTER P WITH FLOURISH,zfSMALL LETTER P WITH FLOURISH
zdCAPITAL LETTER P WITH SQUIRREL TAIL,zkSMALL LETTER P WITH SQUIRREL TAIL
ziCAPITAL LETTER Q WITH STROKE THROUGH DESCENDER,zvSMALL LETTER Q WITH STROKE THROUGH DESCENDER
ztCAPITAL LETTER Q WITH DIAGONAL STROKE,zmSMALL LETTER Q WITH DIAGONAL STROKE
zkCAPITAL LETTER R ROTUNDA,ySMALL LETTER R ROTUNDA,wCAPITAL LETTER RUM ROTUNDA
zbSMALL LETTER RUM ROTUNDA,yCAPITAL LETTER V WITH DIAGONAL STROKE
zmSMALL LETTER V WITH DIAGONAL STROKE,zkCAPITAL LETTER VY,rSMALL LETTER VY
pCAPITAL LETTER VISIGOTHIC Z,zcSMALL LETTER VISIGOTHIC Z,zaCAPITAL LETTER THORN WITH STROKE
zhSMALL LETTER THORN WITH STROKE,zfCAPITAL LETTER THORN WITH STROKE THROUGH DESCENDER
zzaSMALL LETTER THORN WITH STROKE THROUGH DESCENDER,zxCAPITAL LETTER VEND,tSMALL LETTER VEND
rCAPITAL LETTER ET,rSMALL LETTER ET,pCAPITAL LETTER IS,rSMALL LETTER IS,pCAPITAL LETTER CON
sSMALL LETTER CON,wMODIFIER LETTER US,sLATIN SMALL LETTER DUM,dLUM,dMUM,dNUM,dRUM
qLETTER SMALL CAPITAL RUM,ySMALL LETTER TUM,dUM,pCAPITAL LETTER INSULAR D,ySMALL LETTER INSULAR D
wCAPITAL LETTER INSULAR F,ySMALL LETTER INSULAR F,wCAPITAL LETTER INSULAR G,jTURNED INSULAR G
zgSMALL LETTER TURNED INSULAR G,zeCAPITAL LETTER TURNED L,xSMALL LETTER TURNED L
vCAPITAL LETTER INSULAR R,ySMALL LETTER INSULAR R,wCAPITAL LETTER INSULAR S,ySMALL LETTER INSULAR S
wCAPITAL LETTER INSULAR T,ySMALL LETTER INSULAR T,zdMODIFIER LETTER LOW CIRCUMFLEX ACCENT,vCOLON
fSHORT EQUALS SIGN,ziLATIN CAPITAL LETTER SALTILLO,xSMALL LETTER SALTILLO,vCAPITAL LETTER TURNED H
xSMALL LETTER L WITH RETROFLEX HOOK AND BELT,zsLETTER SINOLOGICAL DOT
wCAPITAL LETTER N WITH DESCENDER,zgSMALL LETTER N WITH DESCENDER,zeCAPITAL LETTER C WITH BAR
zaSMALL LETTER C WITH BAR,dPALATAL HOOK,tH WITH PALATAL HOOK,zhCAPITAL LETTER B WITH FLOURISH
zfSMALL LETTER B WITH FLOURISH,zdCAPITAL LETTER F WITH STROKE,zdSMALL LETTER F WITH STROKE
zbCAPITAL LETTER VOLAPUK AE,zaSMALL LETTER VOLAPUK AE,xCAPITAL LETTER VOLAPUK OE
zaSMALL LETTER VOLAPUK OE,xCAPITAL LETTER VOLAPUK UE,zaSMALL LETTER VOLAPUK UE
xCAPITAL LETTER G WITH OBLIQUE STROKE,zlSMALL LETTER G WITH OBLIQUE STROKE
zjCAPITAL LETTER K WITH OBLIQUE STROKE,zlSMALL LETTER K WITH OBLIQUE STROKE
zjCAPITAL LETTER N WITH OBLIQUE STROKE,zlSMALL LETTER N WITH OBLIQUE STROKE
zjCAPITAL LETTER R WITH OBLIQUE STROKE,zlSMALL LETTER R WITH OBLIQUE STROKE
zjCAPITAL LETTER S WITH OBLIQUE STROKE,zlSMALL LETTER S WITH OBLIQUE STROKE
zjCAPITAL LETTER H WITH HOOK,lREVERSED OPEN E,pSCRIPT G,iL WITH BELT,lSMALL CAPITAL I
zfLETTER SMALL CAPITAL Q,wCAPITAL LETTER TURNED K,bT,iJ WITH CROSSED-TAIL,tCHI,dBETA
tSMALL LETTER BETA,rCAPITAL LETTER OMEGA,uSMALL LETTER OMEGA,sCAPITAL LETTER U WITH STROKE
zdSMALL LETTER U WITH STROKE,zbCAPITAL LETTER GLOTTAL A,ySMALL LETTER GLOTTAL A
wCAPITAL LETTER GLOTTAL I,ySMALL LETTER GLOTTAL I,wCAPITAL LETTER GLOTTAL U,ySMALL LETTER GLOTTAL U
wCAPITAL LETTER OLD POLISH O,zcSMALL LETTER OLD POLISH O,zaCAPITAL LETTER ANGLICANA W
zbSMALL LETTER ANGLICANA W,yCAPITAL LETTER C WITH PALATAL HOOK,tS WITH HOOK,lZ WITH PALATAL HOOK
tD WITH SHORT STROKE OVERLAY,zrSMALL LETTER D WITH SHORT STROKE OVERLAY
zpCAPITAL LETTER S WITH SHORT STROKE OVERLAY,zrSMALL LETTER S WITH SHORT STROKE OVERLAY,+5
zpCAPITAL LETTER CLOSED INSULAR G,zgSMALL LETTER CLOSED INSULAR G,+1,qDOUBLE THORN,+1,fWYNN
yCAPITAL LETTER MIDDLE SCOTS S,zeSMALL LETTER MIDDLE SCOTS S,zcCAPITAL LETTER SIGMOID S
ySMALL LETTER SIGMOID S,+24,zdMODIFIER LETTER CAPITAL C,bF,bQ
zaLATIN CAPITAL LETTER REVERSED HALF H,zfSMALL LETTER REVERSED HALF H
zdEPIGRAPHIC LETTER SIDEWAYS I,zjMODIFIER LETTER CAPITAL H WITH STROKE,vSMALL LIGATURE OE
ziLATIN LETTER SMALL CAPITAL TURNED M,zeEPIGRAPHIC LETTER REVERSED F,bP,kINVERTED M,j LONGA
hARCHAIC M,ziSYLOTI NAGRI LETTER A,bI,iSIGN DVISVARA,nLETTER U,bE,bO,iSIGN HASANTA,mLETTER KO,bHO
dGO,bHO,kSIGN ANUSVARA,nLETTER CO,bHO,dJO,bHO,dTTO,bHO,eDDO,bHO,eTO,bHO,dDO,bHO,dNO,cPO,bHO,dBO,bHO
dMO,cRO,cLO,cRRO,dSO,cHO,jVOWEL SIGN A,bI,bU,bE,bOO,nPOETRY MARK-1,b2,b3,b4,nSIGN ALTERNATE HASANTA
+3,zkNORTH INDIC FRACTION ONE QUARTER,hHALF,iTHREE QUARTERS,oONE SIXTEENTH,jEIGHTH
kTHREE SIXTEENTHS,zaQUARTER MARK,mPLACEHOLDER MARK,qRUPEE MARK,kQUANTITY MARK,+6
zaPHAGS-PA LETTER KA,bHA,dGA,cNGA,dCA,bHA,dJA,cNYA,dTA,bHA,dDA,cNA,cPA,bHA,dBA,cMA,cTSA,bHA,eDZA
dWA,cZHA,cA,cSMALL A,hYA,cRA,cLA,cSHA,cA,cHA,cA,bI,bU,bE,bO,bQA,cXA,cFA,cGGA,dEE
jSUBJOINED LETTER WA,cYA,tLETTER TTA,bHA,eDDA,dNNA,dALTERNATE YA,mVOICELESS SHA,iD HA,jASPIRATED FA
tSUBJOINED LETTER RA,rPERFIXED LETTER RA,uLETTER CANDRABINDU,sSINGLE HEAD MARK,qDOUBLE HEAD MARK
qMARK SHAD,eDOUBLE SHAD,+8,zaSAURASHTRA SIGN ANUSVARA,iVISARGA,mLETTER A,aA,cI,aI,cU,aU,cVOCALIC R
aR,cL,aL,kE,aE,cAI,cO,aO,cAU,cKA,bHA,dGA,bHA,dNGA,dCA,bHA,dJA,bHA,dNYA,dTTA,bHA,eDDA,bHA,eNNA,dTA
bHA,dDA,bHA,dNA,cPA,bHA,dBA,bHA,dMA,cYA,cRA,cLA,cVA,cSHA,cSA,cA,cHA,cLLA,kCONSONANT SIGN HAARU
uVOWEL SIGN AA,cI,aI,cU,aU,cVOCALIC R,aR,cL,aL,kE,aE,cAI,cO,aO,cAU,nSIGN VIRAMA,gCANDRABINDU,+8
qDANDA,eOUBLE DANDA,lIGIT ZERO,eONE,dTWO,cHREE,fFOUR,dIVE,eSIX,cEVEN,fEIGHT,fNINE,+6
vCOMBINING DEVANAGARI DIGIT ZERO,eONE,dTWO,cHREE,fFOUR,dIVE,eSIX,cEVEN,fEIGHT,fNINE,kLETTER A,bU
bKA,cNA,cPA,cRA,cVI,jSIGN AVAGRAHA,zjDEVANAGARI SIGN SPACING CANDRABINDU,tCANDRABINDU VIRAMA
sDOUBLE CANDRABINDU VIRAMA,zaCANDRABINDU TWO,cHREE,fAVAGRAHA,uPUSHPIKA,nGAP FILLER,kCARET
fHEADSTROKE,kSIGN SIDDHAM,mJAIN OM,hLETTER AY,jVOWEL SIGN AY,yKAYAH LI DIGIT ZERO,eONE,dTWO,cHREE
fFOUR,dIVE,eSIX,cEVEN,fEIGHT,fNINE,kLETTER KA,bHA,dGA,cNGA,dSA,bHA,dZA,cNYA,dTA,cHTA,dNA,cPA,bHA
dMA,cDA,cBA,cRA,cYA,cLA,cWA,cTHA,dHA,cVA,cCA,cA,bOE,cI,bOO,jVOWEL UE,cE,bU,bEE,cO,hTONE PLOPHU
gCALYA,a PLOPHU,rSIGN CWI,dSHYA,sREJANG LETTER KA,cGA,cNGA,dTA,cDA,cNA,cPA,cBA,cMA,cCA,cJA,cNYA,dSA
cRA,cLA,cYA,cWA,cHA,cMBA,dNGGA,dDA,cYJA,eA,iVOWEL SIGN I,bU,bE,bAI,cO,bAU,cEU,bA,nCONSONANT SIGN NG
b,bR,bH,qVIRAMA,+11,gSECTION MARK,tHANGUL CHOSEONG TIKEUT-MIEUM,fPIEUP,fSIOS,eCIEUC,mRIEUL-KIYEOK
gSSANGKIYEOK,lTIKEUT,gSSANGTIKEUT,lMIEUM,fPIEUP,fSSANGPIEUP,kKAPYEOUNPIEUP,nSIOS,eCIEUC,fKHIEUKH
nMIEUM-KIYEOK,gTIKEUT,gSIOS,kPIEUP-SIOS-THIEUTH,mKHIEUKH,hHIEUH,lSSANGSIOS-PIEUP,pIEUNG-RIEUL
fHIEUH,lSSANGCIEUC-HIEUH,lTHIEUTH,mPHIEUPH-HIEUH,nHIEUH-SIOS,kSSANGYEORINHIEUH,+3
zhJAVANESE SIGN PANYANGGA,jCECAK,fLAYAR,fWIGNYAN,mLETTER A,bI KAWI,f,aI,cU,bPA CEREK,iNGA LELET
a RASWADI,rE,bAI,cO,bKA,a SASAK,fMURDA,iGA,a MURDA,iNGA,dCA,a MURDA,iJA,cNYA MURDA,jJA MAHAPRANA
mNYA,dTTA,a MAHAPRANA,nDDA,a MAHAPRANA,nNA MURDA,iTA,a MURDA,iDA,a MAHAPRANA,mNA,cPA,a MURDA,iBA
a MURDA,iMA,cYA,cRA,a AGUNG,iLA,cWA,cSA MURDA,eAHAPRANA,k,cHA,jSIGN CECAK TELU,pVOWEL SIGN TARUNG
fOLONG,gWULU,a MELIK,kSUKU,a MENDUT,lTALING,gDIRGA MURE,kPEPET,qCONSONANT SIGN KERET,fPENGKAL
hCAKRA,uPANGKON,hLEFT RERENGGAN,oRIGHT RERENGGAN,pPADA ANDAP,fMADYA,fLUHUR,fWINDU,fPANGKAT,hLINGSA
fUNGSI,gADEG,a ADEG,jPISELEH,mTURNED PADA PISELEH,+1,tPANGRANGKEP,lDIGIT ZERO,eONE,dTWO,cHREE,fFOUR
dIVE,eSIX,cEVEN,fEIGHT,fNINE,+4,kPADA TIRTA TUMETES,nISEN-ISEN,xMYANMAR LETTER SHAN GHA,dCHA,dJHA
dNNA,dBHA,pSIGN SHAN SAW,nMODIFIER LETTER SHAN REDUPLICATION,zjLETTER TAI LAING NYA,dFA,cGA,bHA,dJA
bHA,dDDA,bHA,eNNA,uTAI LAING DIGIT ZERO,eONE,dTWO,cHREE,fFOUR,dIVE,eSIX,cEVEN,fEIGHT,fNINE
uLETTER TAI LAING LLA,dDA,bHA,dBA,bHA,+1,zdCHAM LETTER A,bI,bU,bE,bAI,cO,bKA,bHA,dGA,bHA,dNGUE,cA
dCHA,bHA,eJA,bHA,dNHUE,cA,bJA,eTA,bHA,dDA,bHA,dNUE,cA,cDDA,dPA,bPA,cHA,dBA,bHA,dMUE,cA,cBBA,dYA,cRA
cLA,cVA,cSSA,cA,cHA,jVOWEL SIGN AA,cI,aI,cEI,cU,bOE,b,bAI,bU,cUE,nCONSONANT SIGN YA,cRA,cLA,cWA,+9
rLETTER FINAL K,bG,bNG,pCONSONANT SIGN FINAL NG,xLETTER FINAL CH,cT,bN,bP,bY,bR,bL,bSS
pCONSONANT SIGN FINAL M,bH,+2,wDIGIT ZERO,eONE,dTWO,cHREE,fFOUR,dIVE,eSIX,cEVEN,fEIGHT,fNINE,+2
kPUNCTUATION SPIRAL,gDANDA,eOUBLE DANDA,mTRIPLE DANDA,zeMYANMAR LETTER KHAMTI GA,cCA,bHA,dJA,bHA
dNYA,dTTA,bHA,eDDA,bHA,dHA,dNA,cSA,cHA,bHA,dFA,qMODIFIER LETTER KHAMTI REDUPLICATION
zlLETTER KHAMTI XA,cZA,cRA,pOGOGRAM KHAMTI OAY,dQN,cHM,sSYMBOL AITON EXCLAMATION,lONE,dTWO
qLETTER AITON RA,pSIGN PAO KAREN TONE,oTAI LAING TONE-2,b5,vLETTER SHWE PALAUNG CHA,dSHA
zgTAI VIET LETTER LOW KO,gHIGH KO,hLOW KHO,hHIGH KHO,iLOW KHHO,iHIGH KHHO,jLOW GO,gHIGH GO,hLOW NGO
hHIGH NGO,iLOW CO,gHIGH CO,hLOW CHO,hHIGH CHO,iLOW SO,gHIGH SO,hLOW NYO,hHIGH NYO,iLOW DO,gHIGH DO
hLOW TO,gHIGH TO,hLOW THO,hHIGH THO,iLOW NO,gHIGH NO,hLOW BO,gHIGH BO,hLOW PO,gHIGH PO,hLOW PHO
hHIGH PHO,iLOW FO,gHIGH FO,hLOW MO,gHIGH MO,hLOW YO,gHIGH YO,hLOW RO,gHIGH RO,hLOW LO,gHIGH LO
hLOW VO,gHIGH VO,hLOW HO,gHIGH HO,hLOW O,fHIGH O,nMAI KANG,iVOWEL AA,cI,bUE,b,bE,bO,hMAI KHIT
iVOWEL IA,cUEA,cA,cAUE,cY,bN,bM,iTONE MAI EK,cNUENG,fTHO,dSONG,+24,nSYMBOL KON,dNUENG,fSAM,dHO HOI
gKOI KOI,xMEETEI MAYEK LETTER E,bO,bCHA,dNYA,dTTA,bHA,eDDA,bHA,eNNA,dSHA,cSA,kVOWEL SIGN II,cUU
cAAI,cU,bAU,oCHEIKHAN,iAHANG KHUDAM,lNJI,eSYLLABLE REPETITION MARK,yWORD REPETITION MARK
uVOWEL SIGN VISARGA,rIRAMA,+10,tETHIOPIC SYLLABLE TTHU,bI,bAA,cEE,b,bO,+2,eDDHU,bI,bAA,cEE,b,bO,+2
dZU,bI,bAA,cEE,b,bO,+9,dCCHHA,bU,bI,bAA,cEE,b,bO,+1,fBBA,bU,bI,bAA,cEE,b,bO,+1
vLATIN SMALL LETTER BARRED ALPHA,mA REVERSED-SCHWA,qBLACKLETTER E,mARRED E,iE WITH FLOURISH
pLENIS F,hSCRIPT G WITH CROSSED-TAIL,zbL WITH INVERTED LAZY S,pDOUBLE MIDDLE TILDE,tMIDDLE RING
sM WITH CROSSED-TAIL,tN WITH CROSSED-TAIL,tENG WITH CROSSED-TAIL,vBLACKLETTER O,a WITH STROKE
zaOPEN O WITH STROKE,sINVERTED OE,lTURNED OE WITH STROKE,gHORIZONTAL STROKE,y OPEN-O,a WITH STROKE
zcSTIRRUP R,wLETTER SMALL CAPITAL R WITH RIGHT LEG,zmSMALL LETTER R WITHOUT HANDLE,qDOUBLE R
iR WITH CROSSED-TAIL,tDOUBLE R WITH CROSSED-TAIL,zbSCRIPT R,a WITH RING,sBASELINE ESH
mU WITH SHORT RIGHT LEG,uBAR WITH SHORT RIGHT LEG,zaI,cTURNED UI,jU WITH LEFT HOOK,qCHI
a WITH LOW RIGHT RING,kLEFT SERIF,xX WITH LOW RIGHT RING,mNG LEFT LEG,a AND LOW RIGHT RING
sWITH SERIF,zgY WITH SHORT RIGHT LEG,zqMODIFIER BREVE WITH INVERTED BREVE,zaLETTER SMALL HENG
eL WITH INVERTED LAZY S,pMIDDLE TILDE,tU WITH LEFT HOOK,znLATIN SMALL LETTER SAKHA YAT,jIOTIFIED E
kOPEN OE,hUO,cINVERTED ALPHA,ziGREEK LETTER SMALL CAPITAL OMEGA
zhLATIN SMALL LETTER DZ DIGRAPH WITH RETROFLEX HOOK,zfTS DIGRAPH WITH RETROFLEX HOOK
zeURNED R WITH MIDDLE TILDE,zuMODIFIER LETTER SMALL TURNED W,oLEFT TACK,jRIGHT TACK,+4
zbCHEROKEE SMALL LETTER A,bE,bI,bO,bU,bV,bGA,cKA,cGE,bI,bO,bU,bV,cHA,bE,bI,bO,bU,bV,cLA,bE,bI,bO,bU
bV,cMA,bE,bI,bO,bU,cNA,cHNA,dNAH,cE,bI,bO,bU,bV,cQUA,bE,bI,bO,bU,bV,dSA,b,aE,bI,bO,bU,bV,cDA,cTA
cDE,cTE,cDI,cTI,cDO,bU,bV,bLA,dTLA,bE,bI,bO,bU,bV,cSA,bE,bI,bO,bU,bV,dWA,bE,bI,bO,bU,bV,cYA
yMEETEI MAYEK LETTER KOK,dSAM,dLAI,dMIT,dPA,cNA,cCHIL,eTIL,dKHOU,eNGOU,eTHOU,eWAI,dYANG,eHUK,dUN,cI
bPHAM,eATIYA,fGOK,dJHAM,eRAI,dBA,cJIL,dDIL,dGHOU,eDHOU,eBHAM,eKOK LONSUM,kLAI LONSUM,kMIT LONSUM
kPA LONSUM,jNA LONSUM,jTIL LONSUM,kNGOU LONSUM,lI LONSUM,pVOWEL SIGN ONAP,eINAP,eANAP,eYENAP
fSOUNAP,gUNAP,eCHEINAP,hNUNG,pCHEIKHEI,iLUM IYEK,iAPUN IYEK,+2,jDIGIT ZERO,eONE,dTWO,cHREE,fFOUR
dIVE,eSIX,cEVEN,fEIGHT,fNINE,+11190,xHANGUL JUNGSEONG O-YEO,dO-I,fYO-A,aE,cEO,fU-YEO,dI-I,fYU-AE,cO
eEU-A,bEO,b,bO,eI-YA-O,cE,cEO,b,cO-I,dYO,bU,cI,dARAEA-A,bE,+4,qONGSEONG NIEUN-RIEUL,fCHIEUCH
nSSANGTIKEUT,a-PIEUP,rTIKEUT-PIEUP,fSIOS,a-KIYEOK,lCIEUC,eHIEUCH,hTHIEUTH,oRIEUL-SSANGKIYEOK
lKIYEOK-HIEUH,sSSANGRIEUL-KHIEUKH,sRIEUL-MIEUM-HIEUH,lPIEUP-TIKEUT,gPHIEUPH,nYESIEUNG
gORINHIEUH-HIEUH,xKAPYEOUNRIEUL,nMIEUM-NIEUN,fSSANGNIEUN,qSSANGMIEUM,kMIEUM-PIEUP-SIOS,kCIEUC
lPIEUP-TIKEUT,gRIEUL-PHIEUPH,nMIEUM,lSSANGPIEUP,kPIEUP-SIOS-TIKEUT,lCIEUC,eHIEUCH,nSIOS-MIEUM
fKAPYEOUNPIEUP,rSANGSIOS-KIYEOK,gTIKEUT,pIOS-PANSIOS,hCIEUC,eHIEUCH,hTHIEUTH,hHIEUH,kPANSIOS-PIEUP
fKAPYEOUNPIEUP,vYESIEUNG-MIEUM,fHIEUH,oCIEUC-PIEUP,fSSANGPIEUP,qSSANGCIEUC,kPHIEUPH-SIOS,eTHIEUTH
+8964,zhLATIN SMALL LIGATURE FF,bI,bL,bFI,bL,dLONG S T,iST,+12,xARMENIAN SMALL LIGATURE MEN NOW
dECH,dINI,hVEW NOW,hMEN XEH,+5,zgHEBREW LETTER YOD WITH HIRIQ,vPOINT JUDEO-SPANISH VARIKA
zbLIGATURE YIDDISH YOD YOD PATAH,zeETTER ALTERNATIVE AYIN,qWIDE ALEF,eDALET,fHE,cKAF,dLAMED
fFINAL MEM,jRESH,eTAV,iALTERNATIVE PLUS SIGN,vSHIN WITH SHIN DOT,hIN DOT,hDAGESH AND SHIN DOT
hIN DOT,zdALEF WITH PATAH,fQAMATS,gMAPIQ,pBET WITH DAGESH,pGIMEL WITH DAGESH,rDALET WITH DAGESH
rHE WITH MAPIQ,nVAV WITH DAGESH,pZAYIN WITH DAGESH,+1,rTET WITH DAGESH,pYOD WITH DAGESH
pFINAL KAF WITH DAGESH,vKAF WITH DAGESH,pLAMED WITH DAGESH,+1,rMEM WITH DAGESH,+1,pNUN WITH DAGESH
pSAMEKH WITH DAGESH,+1,sFINAL PE WITH DAGESH,uPE WITH DAGESH,+1,oTSADI WITH DAGESH,rQOF WITH DAGESH
pRESH WITH DAGESH,qSHIN WITH DAGESH,qTAV WITH DAGESH,pVAV WITH HOLAM,oBET WITH RAFE,nKAF WITH RAFE
nPE WITH RAFE,sIGATURE ALEF LAMED,zbARABIC LETTER ALEF WASLA ISOLATED FORM,nFINAL FORM
vBEEH ISOLATED FORM,nFINAL FORM,kINITIAL FORM,mMEDIAL FORM,qPEH ISOLATED FORM,nFINAL FORM
kINITIAL FORM,mMEDIAL FORM,pBEHEH ISOLATED FORM,nFINAL FORM,kINITIAL FORM,mMEDIAL FORM
rTTEHEH ISOLATED FORM,nFINAL FORM,kINITIAL FORM,mMEDIAL FORM,rEHEH ISOLATED FORM,nFINAL FORM
kINITIAL FORM,mMEDIAL FORM,qTEH ISOLATED FORM,nFINAL FORM,kINITIAL FORM,mMEDIAL FORM
qVEH ISOLATED FORM,nFINAL FORM,kINITIAL FORM,mMEDIAL FORM,pPEHEH ISOLATED FORM,nFINAL FORM
kINITIAL FORM,mMEDIAL FORM,rDYEH ISOLATED FORM,nFINAL FORM,kINITIAL FORM,mMEDIAL FORM
qNYEH ISOLATED FORM,nFINAL FORM,kINITIAL FORM,mMEDIAL FORM,qTCHEH ISOLATED FORM,nFINAL FORM
kINITIAL FORM,mMEDIAL FORM,mEH ISOLATED FORM,nFINAL FORM,kINITIAL FORM,mMEDIAL FORM
tDDAHAL ISOLATED FORM,nFINAL FORM,qAHAL ISOLATED FORM,nFINAL FORM,pUL ISOLATED FORM,nFINAL FORM
nDAL ISOLATED FORM,nFINAL FORM,pJEH ISOLATED FORM,nFINAL FORM,oRREH ISOLATED FORM,nFINAL FORM
pKEHEH ISOLATED FORM,nFINAL FORM,kINITIAL FORM,mMEDIAL FORM,rGAF ISOLATED FORM,nFINAL FORM
kINITIAL FORM,mMEDIAL FORM,oUEH ISOLATED FORM,nFINAL FORM,kINITIAL FORM,mMEDIAL FORM
qNGOEH ISOLATED FORM,nFINAL FORM,kINITIAL FORM,mMEDIAL FORM,qOON GHUNNA ISOLATED FORM,nFINAL FORM
wRNOON ISOLATED FORM,nFINAL FORM,kINITIAL FORM,mMEDIAL FORM,rHEH WITH YEH ABOVE ISOLATED FORM
nFINAL FORM,zaGOAL ISOLATED FORM,nFINAL FORM,kINITIAL FORM,mMEDIAL FORM,qDOACHASHMEE ISOLATED FORM
nFINAL FORM,kINITIAL FORM,mMEDIAL FORM,zcYEH BARREE ISOLATED FORM,nFINAL FORM
kWITH HAMZA ABOVE ISOLATED FORM,nFINAL FORM,zuSYMBOL DOT ABOVE,fBELOW,jTWO DOTS ABOVE,fBELOW
nHREE DOTS ABOVE,fBELOW,fPOINTING DOWNWARDS ABOVE,fBELOW,zkFOUR DOTS ABOVE,fBELOW
pDOUBLE VERTICAL BAR BELOW,zaTWO DOTS VERTICALLY ABOVE,fBELOW,zaRING,eSMALL TAH ABOVE,fBELOW
pWASLA ABOVE,+16,sLETTER NG ISOLATED FORM,nFINAL FORM,kINITIAL FORM,mMEDIAL FORM,oU ISOLATED FORM
nFINAL FORM,mOE ISOLATED FORM,nFINAL FORM,nYU ISOLATED FORM,nFINAL FORM
nU WITH HAMZA ABOVE ISOLATED FORM,zhVE ISOLATED FORM,nFINAL FORM,nKIRGHIZ OE ISOLATED FORM
nFINAL FORM,nYU ISOLATED FORM,nFINAL FORM,vE ISOLATED FORM,nFINAL FORM,kINITIAL FORM,mMEDIAL FORM
nUIGHUR KAZAKH KIRGHIZ ALEF MAKSURA INITIAL FORM,mMEDIAL FORM
zzcIGATURE YEH WITH HAMZA ABOVE WITH ALEF ISOLATED FORM,nFINAL FORM,oE ISOLATED FORM,nFINAL FORM
nWAW ISOLATED FORM,nFINAL FORM,oU ISOLATED FORM,nFINAL FORM,mOE ISOLATED FORM,nFINAL FORM
nYU ISOLATED FORM,nFINAL FORM,nE ISOLATED FORM,nFINAL FORM,kINITIAL FORM
zpUIGHUR KIRGHIZ YEH WITH HAMZA ABOVE WITH ALEF MAKSURA ISOLATED FORM,nFINAL FORM,kINITIAL FORM
zzyETTER FARSI YEH ISOLATED FORM,nFINAL FORM,kINITIAL FORM,mMEDIAL FORM
zcIGATURE YEH WITH HAMZA ABOVE WITH JEEM ISOLATED FORM,sHAH ISOLATED FORM,rMEEM ISOLATED FORM
sALEF MAKSURA ISOLATED FORM,zbYEH ISOLATED FORM,zsBEH WITH JEEM ISOLATED FORM,sHAH ISOLATED FORM
rKHAH ISOLATED FORM,sMEEM ISOLATED FORM,sALEF MAKSURA ISOLATED FORM,zbYEH ISOLATED FORM
zbTEH WITH JEEM ISOLATED FORM,sHAH ISOLATED FORM,rKHAH ISOLATED FORM,sMEEM ISOLATED FORM
sALEF MAKSURA ISOLATED FORM,zbYEH ISOLATED FORM,zaHEH WITH JEEM ISOLATED FORM,sMEEM ISOLATED FORM
sALEF MAKSURA ISOLATED FORM,zbYEH ISOLATED FORM,zcJEEM WITH HAH ISOLATED FORM,rMEEM ISOLATED FORM
zdHAH WITH JEEM ISOLATED FORM,sMEEM ISOLATED FORM,zcKHAH WITH JEEM ISOLATED FORM,sHAH ISOLATED FORM
rMEEM ISOLATED FORM,zdSEEN WITH JEEM ISOLATED FORM,sHAH ISOLATED FORM,rKHAH ISOLATED FORM
sMEEM ISOLATED FORM,zcAD WITH HAH ISOLATED FORM,rMEEM ISOLATED FORM,zcDAD WITH JEEM ISOLATED FORM
sHAH ISOLATED FORM,rKHAH ISOLATED FORM,sMEEM ISOLATED FORM,zcTAH WITH HAH ISOLATED FORM
rMEEM ISOLATED FORM,zcZAH WITH MEEM ISOLATED FORM,zcAIN WITH JEEM ISOLATED FORM,sMEEM ISOLATED FORM
zcGHAIN WITH JEEM ISOLATED FORM,sMEEM ISOLATED FORM,zeFEH WITH JEEM ISOLATED FORM
sHAH ISOLATED FORM,rKHAH ISOLATED FORM,sMEEM ISOLATED FORM,sALEF MAKSURA ISOLATED FORM
zbYEH ISOLATED FORM,zbQAF WITH HAH ISOLATED FORM,rMEEM ISOLATED FORM,sALEF MAKSURA ISOLATED FORM
zbYEH ISOLATED FORM,zbKAF WITH ALEF ISOLATED FORM,sJEEM ISOLATED FORM,sHAH ISOLATED FORM
rKHAH ISOLATED FORM,sLAM ISOLATED FORM,rMEEM ISOLATED FORM,sALEF MAKSURA ISOLATED FORM
zbYEH ISOLATED FORM,zbLAM WITH JEEM ISOLATED FORM,sHAH ISOLATED FORM,rKHAH ISOLATED FORM
sMEEM ISOLATED FORM,sALEF MAKSURA ISOLATED FORM,zbYEH ISOLATED FORM,zbMEEM WITH JEEM ISOLATED FORM
sHAH ISOLATED FORM,rKHAH ISOLATED FORM,sMEEM ISOLATED FORM,sALEF MAKSURA ISOLATED FORM
zbYEH ISOLATED FORM,zcNOON WITH JEEM ISOLATED FORM,sHAH ISOLATED FORM,rKHAH ISOLATED FORM
sMEEM ISOLATED FORM,sALEF MAKSURA ISOLATED FORM,zbYEH ISOLATED FORM,zcHEH WITH JEEM ISOLATED FORM
sMEEM ISOLATED FORM,sALEF MAKSURA ISOLATED FORM,zbYEH ISOLATED FORM,zbYEH WITH JEEM ISOLATED FORM
sHAH ISOLATED FORM,rKHAH ISOLATED FORM,sMEEM ISOLATED FORM,sALEF MAKSURA ISOLATED FORM
zbYEH ISOLATED FORM,zbTHAL WITH SUPERSCRIPT ALEF ISOLATED FORM
zpREH WITH SUPERSCRIPT ALEF ISOLATED FORM,zoALEF MAKSURA WITH SUPERSCRIPT ALEF ISOLATED FORM
zxSHADDA WITH DAMMATAN ISOLATED FORM,wKASRATAN ISOLATED FORM,wFATHA ISOLATED FORM
tDAMMA ISOLATED FORM,tKASRA ISOLATED FORM,tSUPERSCRIPT ALEF ISOLATED FORM
zrYEH WITH HAMZA ABOVE WITH REH FINAL FORM,oZAIN FINAL FORM,pMEEM FINAL FORM,pNOON FINAL FORM
pALEF MAKSURA FINAL FORM,xYEH FINAL FORM,zpBEH WITH REH FINAL FORM,oZAIN FINAL FORM
pMEEM FINAL FORM,pNOON FINAL FORM,pALEF MAKSURA FINAL FORM,xYEH FINAL FORM,xTEH WITH REH FINAL FORM
oZAIN FINAL FORM,pMEEM FINAL FORM,pNOON FINAL FORM,pALEF MAKSURA FINAL FORM,xYEH FINAL FORM
wHEH WITH REH FINAL FORM,oZAIN FINAL FORM,pMEEM FINAL FORM,pNOON FINAL FORM
pALEF MAKSURA FINAL FORM,xYEH FINAL FORM,yFEH WITH ALEF MAKSURA FINAL FORM,xYEH FINAL FORM
xQAF WITH ALEF MAKSURA FINAL FORM,xYEH FINAL FORM,xKAF WITH ALEF FINAL FORM,pLAM FINAL FORM
oMEEM FINAL FORM,pALEF MAKSURA FINAL FORM,xYEH FINAL FORM,xLAM WITH MEEM FINAL FORM
pALEF MAKSURA FINAL FORM,xYEH FINAL FORM,xMEEM WITH ALEF FINAL FORM,pMEEM FINAL FORM
zaNOON WITH REH FINAL FORM,oZAIN FINAL FORM,pMEEM FINAL FORM,pNOON FINAL FORM
pALEF MAKSURA FINAL FORM,xYEH FINAL FORM,yALEF MAKSURA WITH SUPERSCRIPT ALEF FINAL FORM
zuYEH WITH REH FINAL FORM,oZAIN FINAL FORM,pMEEM FINAL FORM,pNOON FINAL FORM
pALEF MAKSURA FINAL FORM,xYEH FINAL FORM,oHAMZA ABOVE WITH JEEM INITIAL FORM,rHAH INITIAL FORM
qKHAH INITIAL FORM,rMEEM INITIAL FORM,rHEH INITIAL FORM,zrBEH WITH JEEM INITIAL FORM
rHAH INITIAL FORM,qKHAH INITIAL FORM,rMEEM INITIAL FORM,rHEH INITIAL FORM
zaTEH WITH JEEM INITIAL FORM,rHAH INITIAL FORM,qKHAH INITIAL FORM,rMEEM INITIAL FORM
rHEH INITIAL FORM,yHEH WITH MEEM INITIAL FORM,zcJEEM WITH HAH INITIAL FORM,qMEEM INITIAL FORM
zcHAH WITH JEEM INITIAL FORM,rMEEM INITIAL FORM,zbKHAH WITH JEEM INITIAL FORM,rMEEM INITIAL FORM
zcSEEN WITH JEEM INITIAL FORM,rHAH INITIAL FORM,qKHAH INITIAL FORM,rMEEM INITIAL FORM
zbAD WITH HAH INITIAL FORM,qKHAH INITIAL FORM,rMEEM INITIAL FORM,zbDAD WITH JEEM INITIAL FORM
rHAH INITIAL FORM,qKHAH INITIAL FORM,rMEEM INITIAL FORM,zbTAH WITH HAH INITIAL FORM
zaZAH WITH MEEM INITIAL FORM,zbAIN WITH JEEM INITIAL FORM,rMEEM INITIAL FORM
zbGHAIN WITH JEEM INITIAL FORM,rMEEM INITIAL FORM,zdFEH WITH JEEM INITIAL FORM,rHAH INITIAL FORM
qKHAH INITIAL FORM,rMEEM INITIAL FORM,zbQAF WITH HAH INITIAL FORM,qMEEM INITIAL FORM
zbKAF WITH JEEM INITIAL FORM,rHAH INITIAL FORM,qKHAH INITIAL FORM,rLAM INITIAL FORM
qMEEM INITIAL FORM,zbLAM WITH JEEM INITIAL FORM,rHAH INITIAL FORM,qKHAH INITIAL FORM
rMEEM INITIAL FORM,rHEH INITIAL FORM,zaMEEM WITH JEEM INITIAL FORM,rHAH INITIAL FORM
qKHAH INITIAL FORM,rMEEM INITIAL FORM,zcNOON WITH JEEM INITIAL FORM,rHAH INITIAL FORM
qKHAH INITIAL FORM,rMEEM INITIAL FORM,rHEH INITIAL FORM,zbHEH WITH JEEM INITIAL FORM
rMEEM INITIAL FORM,rSUPERSCRIPT ALEF INITIAL FORM,znYEH WITH JEEM INITIAL FORM,rHAH INITIAL FORM
qKHAH INITIAL FORM,rMEEM INITIAL FORM,rHEH INITIAL FORM,pAMZA ABOVE WITH MEEM MEDIAL FORM
qHEH MEDIAL FORM,zqBEH WITH MEEM MEDIAL FORM,qHEH MEDIAL FORM,yTEH WITH MEEM MEDIAL FORM
qHEH MEDIAL FORM,xHEH WITH MEEM MEDIAL FORM,qHEH MEDIAL FORM,zaSEEN WITH MEEM MEDIAL FORM
qHEH MEDIAL FORM,yHEEN WITH MEEM MEDIAL FORM,qHEH MEDIAL FORM,zbKAF WITH LAM MEDIAL FORM
pMEEM MEDIAL FORM,zaLAM WITH MEEM MEDIAL FORM,zaNOON WITH MEEM MEDIAL FORM,qHEH MEDIAL FORM
zaYEH WITH MEEM MEDIAL FORM,qHEH MEDIAL FORM,ySHADDA WITH FATHA MEDIAL FORM,rDAMMA MEDIAL FORM
rKASRA MEDIAL FORM,zeTAH WITH ALEF MAKSURA ISOLATED FORM,zbYEH ISOLATED FORM
zbAIN WITH ALEF MAKSURA ISOLATED FORM,zbYEH ISOLATED FORM,zbGHAIN WITH ALEF MAKSURA ISOLATED FORM
zbYEH ISOLATED FORM,zdSEEN WITH ALEF MAKSURA ISOLATED FORM,zbYEH ISOLATED FORM
zbHEEN WITH ALEF MAKSURA ISOLATED FORM,zbYEH ISOLATED FORM,zdHAH WITH ALEF MAKSURA ISOLATED FORM
zbYEH ISOLATED FORM,zbJEEM WITH ALEF MAKSURA ISOLATED FORM,zbYEH ISOLATED FORM
zcKHAH WITH ALEF MAKSURA ISOLATED FORM,zbYEH ISOLATED FORM,zcSAD WITH ALEF MAKSURA ISOLATED FORM
zbYEH ISOLATED FORM,zbDAD WITH ALEF MAKSURA ISOLATED FORM,zbYEH ISOLATED FORM
zbSHEEN WITH JEEM ISOLATED FORM,sHAH ISOLATED FORM,rKHAH ISOLATED FORM,sMEEM ISOLATED FORM
sREH ISOLATED FORM,zcEEN WITH REH ISOLATED FORM,zbAD WITH REH ISOLATED FORM
zbDAD WITH REH ISOLATED FORM,zbTAH WITH ALEF MAKSURA FINAL FORM,xYEH FINAL FORM
xAIN WITH ALEF MAKSURA FINAL FORM,xYEH FINAL FORM,xGHAIN WITH ALEF MAKSURA FINAL FORM
xYEH FINAL FORM,zaSEEN WITH ALEF MAKSURA FINAL FORM,xYEH FINAL FORM
xHEEN WITH ALEF MAKSURA FINAL FORM,xYEH FINAL FORM,zaHAH WITH ALEF MAKSURA FINAL FORM
xYEH FINAL FORM,xJEEM WITH ALEF MAKSURA FINAL FORM,xYEH FINAL FORM
yKHAH WITH ALEF MAKSURA FINAL FORM,xYEH FINAL FORM,ySAD WITH ALEF MAKSURA FINAL FORM
xYEH FINAL FORM,xDAD WITH ALEF MAKSURA FINAL FORM,xYEH FINAL FORM,xSHEEN WITH JEEM FINAL FORM
pHAH FINAL FORM,oKHAH FINAL FORM,pMEEM FINAL FORM,pREH FINAL FORM,yEEN WITH REH FINAL FORM
xAD WITH REH FINAL FORM,xDAD WITH REH FINAL FORM,xSHEEN WITH JEEM INITIAL FORM,rHAH INITIAL FORM
qKHAH INITIAL FORM,rMEEM INITIAL FORM,zcEEN WITH HEH INITIAL FORM,zaHEEN WITH HEH INITIAL FORM
zcTAH WITH MEEM INITIAL FORM,zbSEEN WITH JEEM MEDIAL FORM,qHAH MEDIAL FORM,pKHAH MEDIAL FORM
zaHEEN WITH JEEM MEDIAL FORM,qHAH MEDIAL FORM,pKHAH MEDIAL FORM,zcTAH WITH MEEM MEDIAL FORM
zaZAH WITH MEEM MEDIAL FORM,zaALEF WITH FATHATAN FINAL FORM,kISOLATED FORM
zxORNATE LEFT PARENTHESIS,qRIGHT PARENTHESIS,yARABIC LIGATURE RAHIMAHU ALLAAH,nDI ALLAAHU ANH,aAA
cUM,aAA,dNNA,uSALLALLAAHU ALAYHI WA-AALIH,zcALAYHI AS-SALAAM,kM AS-SALAAM,kAA AS-SALAAM
n AS-SALAATU WAS-SALAAM,zdQUDDISA SIRRAH,oSALLALLAHU ALAYHI WAAALIHEE WA-SALLAM,zmALAYHAA AS-SALAAM
rTABAARAKA WA-TAAALAA,uRAHIMAHUM ALLAAH,qTEH WITH JEEM WITH MEEM INITIAL FORM
zcHAH WITH JEEM FINAL FORM,kINITIAL FORM,rMEEM INITIAL FORM,zbKHAH WITH MEEM INITIAL FORM
zcMEEM WITH JEEM INITIAL FORM,rHAH INITIAL FORM,qKHAH INITIAL FORM
zlJEEM WITH MEEM WITH HAH FINAL FORM,kINITIAL FORM,zlHAH WITH MEEM WITH YEH FINAL FORM
oALEF MAKSURA FINAL FORM,zrSEEN WITH HAH WITH JEEM INITIAL FORM,zbJEEM WITH HAH INITIAL FORM
qALEF MAKSURA FINAL FORM,ziMEEM WITH HAH FINAL FORM,kINITIAL FORM,qJEEM INITIAL FORM
rMEEM FINAL FORM,kINITIAL FORM,zlAD WITH HAH WITH HAH FINAL FORM,kINITIAL FORM
zaMEEM WITH MEEM FINAL FORM,ziHEEN WITH HAH WITH MEEM FINAL FORM,kINITIAL FORM
zbJEEM WITH YEH FINAL FORM,yMEEM WITH KHAH FINAL FORM,kINITIAL FORM,rMEEM FINAL FORM,kINITIAL FORM
znDAD WITH HAH WITH ALEF MAKSURA FINAL FORM,zhKHAH WITH MEEM FINAL FORM,kINITIAL FORM
zlTAH WITH MEEM WITH HAH FINAL FORM,kINITIAL FORM,qMEEM INITIAL FORM,rYEH FINAL FORM
ziAIN WITH JEEM WITH MEEM FINAL FORM,zaMEEM WITH MEEM FINAL FORM,kINITIAL FORM
rALEF MAKSURA FINAL FORM,zrGHAIN WITH MEEM WITH MEEM FINAL FORM,pYEH FINAL FORM
oALEF MAKSURA FINAL FORM,ztFEH WITH KHAH WITH MEEM FINAL FORM,kINITIAL FORM
zlQAF WITH MEEM WITH HAH FINAL FORM,oMEEM FINAL FORM,zjLAM WITH HAH WITH MEEM FINAL FORM
pYEH FINAL FORM,oALEF MAKSURA FINAL FORM,zhJEEM WITH JEEM INITIAL FORM,mFINAL FORM
zaKHAH WITH MEEM FINAL FORM,kINITIAL FORM,zcMEEM WITH HAH FINAL FORM,kINITIAL FORM
zkMEEM WITH HAH WITH JEEM INITIAL FORM,rMEEM INITIAL FORM,rYEH FINAL FORM
xJEEM WITH HAH INITIAL FORM,qMEEM INITIAL FORM,zcKHAH WITH JEEM INITIAL FORM,rMEEM INITIAL FORM,+2
zcJEEM WITH KHAH INITIAL FORM,zmHEH WITH MEEM WITH JEEM INITIAL FORM,rMEEM INITIAL FORM
zlNOON WITH HAH WITH MEEM INITIAL FORM,rALEF MAKSURA FINAL FORM,zhJEEM WITH MEEM FINAL FORM
kINITIAL FORM,rALEF MAKSURA FINAL FORM,ziMEEM WITH YEH FINAL FORM,oALEF MAKSURA FINAL FORM
zsYEH WITH MEEM WITH MEEM FINAL FORM,kINITIAL FORM,zlBEH WITH KHAH WITH YEH FINAL FORM
ziTEH WITH JEEM WITH YEH FINAL FORM,oALEF MAKSURA FINAL FORM,ziKHAH WITH YEH FINAL FORM
oALEF MAKSURA FINAL FORM,ziMEEM WITH YEH FINAL FORM,oALEF MAKSURA FINAL FORM
zrJEEM WITH MEEM WITH YEH FINAL FORM,yHAH WITH ALEF MAKSURA FINAL FORM
zhMEEM WITH ALEF MAKSURA FINAL FORM,zsSEEN WITH KHAH WITH ALEF MAKSURA FINAL FORM
zrAD WITH HAH WITH YEH FINAL FORM,zgHEEN WITH HAH WITH YEH FINAL FORM
zjDAD WITH HAH WITH YEH FINAL FORM,zhLAM WITH JEEM WITH YEH FINAL FORM,yMEEM WITH YEH FINAL FORM
ziYEH WITH HAH WITH YEH FINAL FORM,xJEEM WITH YEH FINAL FORM,yMEEM WITH YEH FINAL FORM
ziMEEM WITH MEEM WITH YEH FINAL FORM,zjQAF WITH MEEM WITH YEH FINAL FORM
ziNOON WITH HAH WITH YEH FINAL FORM,ziQAF WITH MEEM WITH HAH INITIAL FORM
zkLAM WITH HAH WITH MEEM INITIAL FORM,zkAIN WITH MEEM WITH YEH FINAL FORM
ziKAF WITH MEEM WITH YEH FINAL FORM,ziNOON WITH JEEM WITH HAH INITIAL FORM
zlMEEM WITH KHAH WITH YEH FINAL FORM,zjLAM WITH JEEM WITH MEEM INITIAL FORM
zlKAF WITH MEEM WITH MEEM FINAL FORM,zjLAM WITH JEEM WITH MEEM FINAL FORM
zjNOON WITH JEEM WITH HAH FINAL FORM,zjJEEM WITH HAH WITH YEH FINAL FORM
ziHAH WITH JEEM WITH YEH FINAL FORM,ziMEEM WITH JEEM WITH YEH FINAL FORM
zjFEH WITH MEEM WITH YEH FINAL FORM,ziBEH WITH HAH WITH YEH FINAL FORM
zhKAF WITH MEEM WITH MEEM INITIAL FORM,zlAIN WITH JEEM WITH MEEM INITIAL FORM
zlSAD WITH MEEM WITH MEEM INITIAL FORM,zkEEN WITH KHAH WITH YEH FINAL FORM
zjNOON WITH JEEM WITH YEH FINAL FORM,+7,zjSALAAMUHU ALAYNAA,+32
oLA USED AS KORANIC STOP SIGN ISOLATED FORM,zuQALA USED AS KORANIC STOP SIGN ISOLATED FORM
ztALLAH ISOLATED FORM,sKBAR ISOLATED FORM,tMOHAMMAD ISOLATED FORM,wSALAM ISOLATED FORM
tRASOUL ISOLATED FORM,uALAYHE ISOLATED FORM,uWASALLAM ISOLATED FORM,wSALLA ISOLATED FORM
oLLAHOU ALAYHE WASALLAM,zcJALLAJALALOUHOU,zgRIAL SIGN
jARABIC LIGATURE BISMILLAH AR-RAHMAN AR-RAHEEM,zeSUBHAANAHU WA TAAALAA,vAZZA WA JALL
zdVARIATION SELECTOR-1,b2,b3,b4,b5,b6,b7,b8,b9,b10,b1,b2,b3,b4,b5,b6
vPRESENTATION FORM FOR VERTICAL COMMA,fIDEOGRAPHIC COMMA,fFULL STOP,vCOLON,fSEMICOLON
jEXCLAMATION MARK,qQUESTION MARK,nLEFT WHITE LENTICULAR BRACKET,zeRIGHT WHITE LENTICULAR BRAKCET
zfHORIZONTAL ELLIPSIS,+6,zzaCOMBINING LIGATURE LEFT HALF,jRIGHT HALF,tDOUBLE TILDE LEFT HALF
jRIGHT HALF,xMACRON LEFT HALF,jRIGHT HALF,rCONJOINING MACRON,rLIGATURE LEFT HALF BELOW
pRIGHT HALF BELOW,zaTILDE LEFT HALF BELOW,pRIGHT HALF BELOW,wMACRON LEFT HALF BELOW
pRIGHT HALF BELOW,xCONJOINING MACRON BELOW,wYRILLIC TITLO LEFT HALF,jRIGHT HALF
zkPRESENTATION FORM FOR VERTICAL TWO DOT LEADER,oEM DASH,gN DASH,hLOW LINE,iWAVY LOW LINE
nLEFT PARENTHESIS,qRIGHT PARENTHESIS,rLEFT CURLY BRACKET,sRIGHT CURLY BRACKET
tLEFT TORTOISE SHELL BRACKET,zcRIGHT TORTOISE SHELL BRACKET,zdLEFT BLACK LENTICULAR BRACKET
zeRIGHT BLACK LENTICULAR BRACKET,zfLEFT DOUBLE ANGLE BRACKET,zaRIGHT DOUBLE ANGLE BRACKET
zbLEFT ANGLE BRACKET,sRIGHT ANGLE BRACKET,tLEFT CORNER BRACKET,tRIGHT CORNER BRACKET
uLEFT WHITE CORNER BRACKET,zaRIGHT WHITE CORNER BRACKET,zzhSESAME DOT,kWHITE SESAME DOT
qPRESENTATION FORM FOR VERTICAL LEFT SQUARE BRACKET,tRIGHT SQUARE BRACKET,zzbDASHED OVERLINE
pCENTRELINE OVERLINE,tWAVY OVERLINE,nDOUBLE WAVY OVERLINE,tASHED LOW LINE,pCENTRELINE LOW LINE
tWAVY LOW LINE,nSMALL COMMA,fIDEOGRAPHIC COMMA,rFULL STOP,+1,jSEMICOLON,jCOLON,fQUESTION MARK
nEXCLAMATION MARK,pM DASH,hLEFT PARENTHESIS,qRIGHT PARENTHESIS,rLEFT CURLY BRACKET
sRIGHT CURLY BRACKET,tLEFT TORTOISE SHELL BRACKET,zcRIGHT TORTOISE SHELL BRACKET,zdNUMBER SIGN
lAMPERSAND,iSTERISK,iPLUS SIGN,jHYPHEN-MINUS,mLESS-THAN SIGN,oGREATER-THAN SIGN,rEQUALS SIGN,+1
lREVERSE SOLIDUS,pDOLLAR SIGN,lPERCENT SIGN,mCOMMERCIAL AT,+4,tARABIC FATHATAN ISOLATED FORM
wTATWEEL WITH FATHATAN ABOVE,zcDAMMATAN ISOLATED FORM,wTAIL FRAGMENT,nKASRATAN ISOLATED FORM,+1
wFATHA ISOLATED FORM,nMEDIAL FORM,rDAMMA ISOLATED FORM,nMEDIAL FORM,rKASRA ISOLATED FORM
nMEDIAL FORM,rSHADDA ISOLATED FORM,nMEDIAL FORM,rUKUN ISOLATED FORM,nMEDIAL FORM
rLETTER HAMZA ISOLATED FORM,tALEF WITH MADDA ABOVE ISOLATED FORM,nFINAL FORM
wHAMZA ABOVE ISOLATED FORM,nFINAL FORM,zhWAW WITH HAMZA ABOVE ISOLATED FORM,nFINAL FORM
zgALEF WITH HAMZA BELOW ISOLATED FORM,nFINAL FORM,zhYEH WITH HAMZA ABOVE ISOLATED FORM,nFINAL FORM
kINITIAL FORM,mMEDIAL FORM,zhALEF ISOLATED FORM,nFINAL FORM,pBEH ISOLATED FORM,nFINAL FORM
kINITIAL FORM,mMEDIAL FORM,pTEH MARBUTA ISOLATED FORM,nFINAL FORM,sISOLATED FORM,nFINAL FORM
kINITIAL FORM,mMEDIAL FORM,oHEH ISOLATED FORM,nFINAL FORM,kINITIAL FORM,mMEDIAL FORM
qJEEM ISOLATED FORM,nFINAL FORM,kINITIAL FORM,mMEDIAL FORM,qHAH ISOLATED FORM,nFINAL FORM
kINITIAL FORM,mMEDIAL FORM,pKHAH ISOLATED FORM,nFINAL FORM,kINITIAL FORM,mMEDIAL FORM
qDAL ISOLATED FORM,nFINAL FORM,oTHAL ISOLATED FORM,nFINAL FORM,pREH ISOLATED FORM,nFINAL FORM
oZAIN ISOLATED FORM,nFINAL FORM,pSEEN ISOLATED FORM,nFINAL FORM,kINITIAL FORM,mMEDIAL FORM
pHEEN ISOLATED FORM,nFINAL FORM,kINITIAL FORM,mMEDIAL FORM,qAD ISOLATED FORM,nFINAL FORM
kINITIAL FORM,mMEDIAL FORM,pDAD ISOLATED FORM,nFINAL FORM,kINITIAL FORM,mMEDIAL FORM
pTAH ISOLATED FORM,nFINAL FORM,kINITIAL FORM,mMEDIAL FORM,pZAH ISOLATED FORM,nFINAL FORM
kINITIAL FORM,mMEDIAL FORM,pAIN ISOLATED FORM,nFINAL FORM,kINITIAL FORM,mMEDIAL FORM
pGHAIN ISOLATED FORM,nFINAL FORM,kINITIAL FORM,mMEDIAL FORM,rFEH ISOLATED FORM,nFINAL FORM
kINITIAL FORM,mMEDIAL FORM,pQAF ISOLATED FORM,nFINAL FORM,kINITIAL FORM,mMEDIAL FORM
pKAF ISOLATED FORM,nFINAL FORM,kINITIAL FORM,mMEDIAL FORM,pLAM ISOLATED FORM,nFINAL FORM
kINITIAL FORM,mMEDIAL FORM,pMEEM ISOLATED FORM,nFINAL FORM,kINITIAL FORM,mMEDIAL FORM
qNOON ISOLATED FORM,nFINAL FORM,kINITIAL FORM,mMEDIAL FORM,qHEH ISOLATED FORM,nFINAL FORM
kINITIAL FORM,mMEDIAL FORM,pWAW ISOLATED FORM,nFINAL FORM,oALEF MAKSURA ISOLATED FORM,nFINAL FORM
xYEH ISOLATED FORM,nFINAL FORM,kINITIAL FORM,mMEDIAL FORM
vIGATURE LAM WITH ALEF WITH MADDA ABOVE ISOLATED FORM,nFINAL FORM,wHAMZA ABOVE ISOLATED FORM
nFINAL FORM,qBELOW ISOLATED FORM,nFINAL FORM,zcISOLATED FORM,nFINAL FORM,+2
zpZERO WIDTH NO-BREAK SPACE,+1,zaFULLWIDTH EXCLAMATION MARK,qQUOTATION MARK,oNUMBER SIGN
lDOLLAR SIGN,lPERCENT SIGN,mAMPERSAND,iPOSTROPHE,kLEFT PARENTHESIS,qRIGHT PARENTHESIS,rASTERISK
iPLUS SIGN,jCOMMA,fHYPHEN-MINUS,mFULL STOP,jSOLIDUS,hDIGIT ZERO,eONE,dTWO,cHREE,fFOUR,dIVE,eSIX
cEVEN,fEIGHT,fNINE,kCOLON,fSEMICOLON,jLESS-THAN SIGN,oEQUALS SIGN,lGREATER-THAN SIGN,rQUESTION MARK
nCOMMERCIAL AT,nLATIN CAPITAL LETTER A,bB,bC,bD,bE,bF,bG,bH,bI,bJ,bK,bL,bM,bN,bO,bP,bQ,bR,bS,bT,bU
bV,bW,bX,bY,bZ,vEFT SQUARE BRACKET,tREVERSE SOLIDUS,oIGHT SQUARE BRACKET,uCIRCUMFLEX ACCENT
rLOW LINE,iGRAVE ACCENT,mLATIN SMALL LETTER A,bB,bC,bD,bE,bF,bG,bH,bI,bJ,bK,bL,bM,bN,bO,bP,bQ,bR,bS
bT,bU,bV,bW,bX,bY,bZ,tEFT CURLY BRACKET,sVERTICAL LINE,nRIGHT CURLY BRACKET,tTILDE
fLEFT WHITE PARENTHESIS,wRIGHT WHITE PARENTHESIS,ziHALFWIDTH IDEOGRAPHIC FULL STOP
vLEFT CORNER BRACKET,tRIGHT CORNER BRACKET,uIDEOGRAPHIC COMMA,rKATAKANA MIDDLE DOT,kLETTER WO
cSMALL A,bI,bU,bE,bO,bYA,bU,bO,cTU,q-HIRAGANA PROLONGED SOUND MARK,zf LETTER A,bI,bU,bE,bO,bKA,bI
bU,bE,bO,cSA,bI,bU,bE,bO,cTA,bI,bU,bE,bO,cNA,bI,bU,bE,bO,cHA,bI,bU,bE,bO,cMA,bI,bU,bE,bO,cYA,bU,bO
cRA,bI,bU,bE,bO,cWA,cN,iVOICED SOUND MARK,rSEMI-VOICED SOUND MARK,zgHANGUL FILLER,gLETTER KIYEOK
gSSANGKIYEOK,lKIYEOK-SIOS,lNIEUN,a-CIEUC,fHIEUH,lTIKEUT,gSSANGTIKEUT,lRIEUL,a-KIYEOK,gMIEUM,fPIEUP
fSIOS,eTHIEUTH,hPHIEUPH,hHIEUH,lMIEUM,fPIEUP,fSSANGPIEUP,kPIEUP-SIOS,kSIOS,dSANGSIOS,jIEUNG,fCIEUC
fSSANGCIEUC,kCHIEUCH,hKHIEUKH,hTHIEUTH,hPHIEUPH,hHIEUH,+3,fA,aE,cYA,aE,dEO,b,+2,bYEO,b,cO,bWA,aE
dOE,+2,cYO,cU,bWEO,b,bI,cYU,+2,cEU,cYI,cI,+3,zaFULLWIDTH CENT SIGN,jPOUND SIGN,kNOT SIGN,iMACRON
gBROKEN BAR,kYEN SIGN,iWON SIGN,+1,sHALFWIDTH FORMS LIGHT VERTICAL,uLEFTWARDS ARROW,pUPWARDS ARROW
nRIGHTWARDS ARROW,qDOWNWARDS ARROW,pBLACK SQUARE,mWHITE CIRCLE,+10,wINTERLINEAR ANNOTATION ANCHOR
gSEPARATOR,jTERMINATOR,ziOBJECT REPLACEMENT CHARACTER,zdREPLACEMENT CHARACTER"

end SchemaDoc.Text.Names
