/-
SchemaDoc.Text.Names.From10000 — the names of the characters from U+10000 on.

The block holds ancient scripts.
How it is written is said where it is read.
-/

namespace SchemaDoc.Text.Names

/-- The names from U+10000 on. -/
def from10000 : String :=
  "aLINEAR B SYLLABLE B008 A,e38 E,e28 I,e61 O,e10 U,e01 DA,f45 DE,f07 DI,f14 DO,f51 DU,e7 JA
f46 JE,+1,f36 JO,f65 JU,f77 KA,f44 KE,f67 KI,f70 KO,f81 KU,e0 MA,f13 ME,f73 MI,f15 MO,f23 MU,f06 NA
f24 NE,f30 NI,f52 NO,e5 NU,f03 PA,f72 PE,f39 PI,f11 PO,f50 PU,f16 QA,f78 QE,f21 QI,f32 QO,+1,f60 RA
f27 RE,f53 RI,f02 RO,f26 RU,f31 SA,f09 SE,f41 SI,f12 SO,f58 SU,e9 TA,f04 TE,f37 TI,f05 TO,f69 TU
f54 WA,f75 WE,f40 WI,e2 WO,+1,f17 ZA,f74 ZE,+1,f20 ZO,e5 A2,f43 A3,f85 AU,f71 DWE,g90 DWO,g48 NWA
g29 PU2,g62 PTE,g76 RA2,g33 RA3,g68 RO2,f6 TA2,g87 TWE,g91 TWO,+2,pMBOL B018,b9,c22,c34,c47,b9,c56
c63,b4,c79,c82,b3,b6,b9,+34,lIDEOGRAM B100 MAN,f2 WOMAN,h4 DEER,g5 EQUID,gF MARE,gM STALLION
l6F EWE,fM RAM,g7F SHE-GOAT,kM HE-GOAT,k8F SOW,fM BOAR,h9F COW,fM BULL,i20 WHEAT,h1 BARLEY,i2 OLIVE
h3 SPICE,h5 CYPERUS,vMONOGRAM B127 KAPO,g8 KANAKO,uIDEOGRAM B130 OIL,f1 WINE,g2
nMONOGRAM B133 AREPA,h5 MERI,sIDEOGRAM B140 BRONZE,i1 GOLD,g2,b5 WOOL,g6,c50,b1 HORN,g2,b3,b4
nMONOGRAM B156 TURO2,tIDEOGRAM B157,b8,b9 CLOTH,i60,b1,b2 GARMENT,j3 ARMOUR,i4,b5,b6,b7,b8,b9,c70
b1,b2,b3 MONTH,h4,b6 TREE,g7,b8,b9,c80,b1,b2,b3,b4,b5,b9,c90,b1 HELMET,k220 FOOTSTOOL,l5 BATHTUB
k30 SPEAR,h1 ARROW,h2,b3 SWORD,h4,b6,c40 WHEELED CHARIOT,r1 CHARIOT,j2 CHARIOT FRAME,p3 WHEEL,h5,b6
nMONOGRAM B247 DIPTE,tIDEOGRAM B248,b9,c51,b2,b3,b4 DART,g5,b6,b7,b8,b9,eVESSEL B155,d200,b1,b2,b3
b4,b5,b6,b7,b8,b9,c10,b1,b2,b3,b4,b5,b6,b7,b8,b9,c21,b2,b6,b7,b8,b9,c50,d305,+5
zeAEGEAN WORD SEPARATOR LINE,eDOT,sCHECK MARK,+4,kNUMBER ONE,dTWO,cHREE,fFOUR,dIVE,eSIX,cEVEN
fEIGHT,fNINE,eTEN,cWENTY,fHIRTY,gFORTY,eIFTY,fSIXTY,eEVENTY,hEIGHTY,gNINETY,gONE HUNDRED
lTWO HUNDRED,kHREE HUNDRED,nFOUR HUNDRED,lIVE HUNDRED,mSIX HUNDRED,kEVEN HUNDRED,nEIGHT HUNDRED
nNINE HUNDRED,mONE THOUSAND,mTWO THOUSAND,lHREE THOUSAND,oFOUR THOUSAND,mIVE THOUSAND,nSIX THOUSAND
lEVEN THOUSAND,oEIGHT THOUSAND,oNINE THOUSAND,nTEN THOUSAND,lWENTY THOUSAND,oHIRTY THOUSAND
pFORTY THOUSAND,nIFTY THOUSAND,oSIXTY THOUSAND,nEVENTY THOUSAND,qEIGHTY THOUSAND,pNINETY THOUSAND
+3,wWEIGHT BASE UNIT,jFIRST SUBUNIT,nSECOND SUBUNIT,oTHIRD SUBUNIT,nFOURTH SUBUNIT
vDRY MEASURE FIRST SUBUNIT,zaLIQUID MEASURE FIRST SUBUNIT,zdMEASURE SECOND SUBUNIT,oTHIRD SUBUNIT
zdGREEK ACROPHONIC ATTIC ONE QUARTER,hHALF,eDRACHMA,lFIVE,cFTY,dVE HUNDRED,hTHOUSAND,lFTY THOUSAND
mVE TALENTS,mTEN TALENTS,lFIFTY TALENTS,nONE HUNDRED TALENTS,tFIVE HUNDRED TALENTS
uONE THOUSAND TALENTS,uFIVE THOUSAND TALENTS,qSTATERS,mTEN STATERS,lFIFTY STATERS
nONE HUNDRED STATERS,tFIVE HUNDRED STATERS,uONE THOUSAND STATERS,uTEN THOUSAND STATERS
uFIFTY THOUSAND STATERS,wTEN MNAS,oHERAEUM ONE PLETHRON,uTHESPIAN ONE,mHERMIONIAN ONE
oEPIDAUREAN TWO,oTHESPIAN TWO,mCYRENAIC TWO DRACHMAS,vEPIDAUREAN TWO DRACHMAS,xTROEZENIAN FIVE,eTEN
a ALTERNATE FORM,zeHERMIONIAN TEN,oMESSENIAN TEN,nTHESPIAN TEN,cHIRTY,oROEZENIAN FIFTY
a ALTERNATE FORM,zgHERMIONIAN FIFTY,qTHESPIAN FIFTY,fONE HUNDRED,lTHREE HUNDRED
wEPIDAUREAN FIVE HUNDRED,xTROEZENIAN FIVE HUNDRED,wHESPIAN FIVE HUNDRED,vCARYSTIAN FIVE HUNDRED
wNAXIAN FIVE HUNDRED,tTHESPIAN ONE THOUSAND,mFIVE THOUSAND,wDELPHIC FIVE MNAS,rSTRATIAN FIFTY MNAS
zfONE HALF SIGN,a ALTERNATE FORM,zdTWO THIRDS SIGN,oHREE QUARTERS SIGN,tYEAR SIGN,jTALENT SIGN
lDRACHMA SIGN,mOBOL SIGN,jTWO OBOLS SIGN,nHREE OBOLS SIGN,qFOUR OBOLS SIGN,oIVE OBOLS SIGN
pMETRETES SIGN,nKYATHOS BASE SIGN,rLITRA SIGN,kOUNKIA SIGN,lXESTES SIGN,lARTABE SIGN,jOURA SIGN
lGRAMMA SIGN,lTRYBLION BASE SIGN,sZERO SIGN,jONE QUARTER SIGN,qSINUSOID SIGN,nINDICTION SIGN
uNOMISMA SIGN,+1,mROMAN SEXTANS SIGN,mUNCIA SIGN,kSEMUNCIA SIGN,lXTULA SIGN,mDIMIDIA SEXTULA SIGN
uSILIQUA SIGN,mDENARIUS SIGN,nQUINARIUS SIGN,oSESTERTIUS SIGN,pDUPONDIUS SIGN,oAS SIGN
hCENTURIAL SIGN,uASCIA SYMBOL,+3,mGREEK SYMBOL TAU RHO,+47,uPHAISTOS DISC SIGN PEDESTRIAN
jLUMED HEAD,lTATTOOED HEAD,nCAPTIVE,gHILD,fWOMAN,fHELMET,gGAUNTLET,iTIARA,fARROW,fBOW,dSHIELD,gCLUB
eMANACLES,gTTOCK,hSAW,dLID,dBOOMERANG,jCARPENTRY PLANE,pDOLIUM,gCOMB,eSLING,fCOLUMN,gBEEHIVE,hSHIP
eHORN,dIDE,eBULLS LEG,jCAT,dRAM,dEAGLE,fDOVE,eTUNNY,fBEE,dPLANE TREE,kVINE,ePAPYRUS,hROSETTE,hLILY
eOX BACK,hFLUTE,fGRATER,gSTRAINER,hMALL AXE,jWAVY BAND,jCOMBINING OBLIQUE STROKE,+130
zsLYCIAN LETTER A,bE,bB,aH,cG,bD,bI,bW,bZ,bTH,cJ,bK,bQ,bL,bM,bN,bMM,cNN,cU,bP,bKK,cR,bS,bT,aT,cAN
cEN,cH,bX,+3,pCARIAN LETTER A,bP2,cD,bL,bUUU,dR,bLD,cA2,cQ,bB,bM,bO,bD2,cT,bSH,a2,c,bC-18,eU,bNN,cX
bN,bTT2,dP,bSS,cI,bE,bUUUU,eK,a2,cND,cUU,cG,a2,cST,a2,dNG,cII,cC-39,eTT,cUUU2,eRR,cMB,a2,b3,b4,dLD2
dE2,cUUU3,+15,rOPTIC EPACT THOUSANDS MARK,oDIGIT ONE,dTWO,cHREE,fFOUR,dIVE,eSIX,cEVEN,fEIGHT,fNINE
kNUMBER TEN,cWENTY,fHIRTY,gFORTY,eIFTY,fSIXTY,eEVENTY,hEIGHTY,gNINETY,gONE HUNDRED,lTWO HUNDRED
kHREE HUNDRED,nFOUR HUNDRED,lIVE HUNDRED,mSIX HUNDRED,kEVEN HUNDRED,nEIGHT HUNDRED,nNINE HUNDRED,+4
zhOLD ITALIC LETTER A,bBE,cKE,cDE,cE,bVE,cZE,cHE,cTHE,dI,bKA,cEL,bM,bN,bSH,dO,bPE,cSHE,dKU,cER,bS
cTE,cU,bEKS,dPHE,dKHE,dEF,bRS,dCHE,dII,cUU,cESS,kNUMERAL ONE,dFIVE,eTEN,dFIFTY,+9,nLETTER YE
cNORTHERN TSE,mSOUTHERN TSE,zfGOTHIC LETTER AHSA,eBAIRKAN,hGIBA,eDAGS,eAIHVUS,gQAIRTHRA,iIUJA,eHAGL
eTHIUTH,gEIS,dKUSMA,fLAGUS,fMANNA,fNAUTHS,gJER,dURUS,ePAIRTHRA,iNINETY,gRAIDA,fSAUIL,fTEIWS,fWINJA
fFAIHU,fIGGWS,fHWAIR,fOTHAL,fNINE HUNDRED,+5,zbOLD PERMIC LETTER AN,cBUR,dGAI,dDOI,dE,bZHOI,eDZHOI
fZATA,eDZITA,fI,bKOKE,eLEI,dMENOE,fNENOE,fVOOI,ePEEI,eREI,dSII,dTAI,dU,bCHERY,fSHOOI,dCHOOI,hYRY
cERU,eO,aO,cEF,cHA,cTSIU,eVER,dYER,aI,dAT,dIE,cYU,bA,cIA,uCOMBINING OLD PERMIC LETTER AN,cDOI,dZATA
eNENOE,fSII,+5,zgUGARITIC LETTER ALPA,eBETA,eGAMLA,fKHA,dDELTA,fHO,cWO,cZETA,eHOTA,eTET,dYOD,dKAF
dSHIN,eLAMDA,fMEM,dDHAL,eNUN,dZU,cSAMKA,fAIN,dPU,cSADE,eQOPA,eRASHA,fTHANNA,gGHAIN,fTO,cI,bU,bSSU
+1,kWORD DIVIDER,vOLD PERSIAN SIGN A,bI,bU,bKA,bU,cGA,bU,cXA,cCA,cJA,bI,cTA,bU,cDA,bI,bU,cTHA,dPA
cBA,cFA,cNA,bU,cMA,bI,bU,cYA,cVA,bI,cRA,bU,cLA,cSA,cZA,cSHA,cSA,dHA,+4,cAURAMAZDAA,a-2,cHA
mXSHAAYATHIYA,mDAHYAAUSH,a-2,lBAGA,dUUMISH,mWORD DIVIDER,mNUMBER ONE,dTWO,cEN,cWENTY,gHUNDRED,+42
zbDESERET CAPITAL LETTER LONG I,bE,bA,aH,cO,aO,hSHORT I,bE,bA,aH,cO,aO,iAY,cOW,cWU,cYEE,dH,bPEE
dBEE,dTEE,dDEE,dCHEE,eJEE,dKAY,dGAY,dEF,cVEE,dETH,dTHEE,eES,cZEE,dESH,dZHEE,eER,bL,bM,bN,aG,dOI,cEW
rSMALL LETTER LONG I,bE,bA,aH,cO,aO,hSHORT I,bE,bA,aH,cO,aO,iAY,cOW,cWU,cYEE,dH,bPEE,dBEE,dTEE,dDEE
dCHEE,eJEE,dKAY,dGAY,dEF,cVEE,dETH,dTHEE,eES,cZEE,dESH,dZHEE,eER,bL,bM,bN,aG,dOI,cEW
xSHAVIAN LETTER PEEP,eTOT,dKICK,eFEE,dTHIGH,fSO,bURE,eCHURCH,gYEA,dHUNG,eBIB,dDEAD,eGAG,dVOW,dTHEY
eZOO,dMEASURE,hJUDGE,fWOE,dHA-HA,fLOLL,eMIME,eIF,cEGG,dASH,cDO,dON,cWOOL,eOUT,dAH,cROAR,eNUN,dEAT
dAGE,dICE,dUP,cOAK,cOZE,dIL,dAWE,cRE,dOR,cAIR,dERR,dARRAY,fEAR,dIAN,dYEW,sOSMANYA LETTER ALEF,eBA
cTA,cJA,cXA,cKHA,dDEEL,eRA,cSA,bHIIN,fDHA,dCAYN,eGA,cFA,cQAAF,eKAAF,eLAAN,eMIIN,eNUUN,eWAW,dHA,cYA
cA,bE,bI,bO,bU,bAA,cEE,cOO,+2,jDIGIT ZERO,eONE,dTWO,cHREE,fFOUR,dIVE,eSIX,cEVEN,fEIGHT,fNINE,+6
qAGE CAPITAL LETTER A,aI,aN,cH,cBRA,dCHA,dEHCHA,e,aIN,dHA,bYA,dI,bKA,cEHKA,eKYA,dLA,cMA,cNA,cO,aIN
dPA,cEHPA,eSA,bHA,dTA,cEHTA,eTSA,dEHTSA,fTSHA,eDHA,dU,bWA,cKHA,dGHA,dZA,bHA,+4,sSMALL LETTER A,aI
aN,cH,cBRA,dCHA,dEHCHA,e,aIN,dHA,bYA,dI,bKA,cEHKA,eKYA,dLA,cMA,cNA,cO,aIN,dPA,cEHPA,eSA,bHA,dTA
cEHTA,eTSA,dEHTSA,fTSHA,eDHA,dU,bWA,cKHA,dGHA,dZA,bHA,+4,wELBASAN LETTER A,bBE,cCE,bHE,dDE,cNDE
dDHE,dEI,b,bFE,cGE,bJE,dHE,cI,bJE,cKE,cLE,bLE,dME,cNE,bA,bJE,dO,bPE,cQE,cRE,bRE,dSE,bHE,dTE,bHE,dU
bVE,cXE,cY,bZE,bHE,dGHE,bAMMA,gKHE,+8,sCAUCASIAN ALBANIAN LETTER ALT,dBET,dGIM,dDAT,dEB,cZARL,eEYN
dZHIL,eTAS,dCHA,dYOWD,eZHA,dIRB,dSHA,dLAN,dINYA,eXEYN,eDYAN,eCAR,dJHOX,eKAR,dLYIT,eHEYT,eQAY,dAOR
dCHOY,cI,cYAY,eMAQ,dQAR,dNOWC,eDZYAY,fSHAK,eJAYN,eON,cTYAY,eFAM,dDZAY,eCHAT,ePEN,dGHEYS,fRAT,dSEYK
eVEYZ,eTIWR,eSHOY,eIWN,dCYAW,dAYN,eYAYD,ePIWR,eKIW,+11,kCITATION MARK,zhVITHKUQI CAPITAL LETTER A
bBBE,cE,cCE,bHE,dDE,bHE,dEI,b,bFE,cGA,+1,cHA,bHA,dI,aJE,dJE,cKA,cLA,bLA,dME,cNE,bJE,dO,bPE,cQA,cRE
+1,cSE,bHE,dTE,bHE,dU,bVE,cXE,+1,cY,bZE,+1,rSMALL LETTER A,bBBE,cE,cCE,bHE,dDE,bHE,dEI,b,bFE,cGA,+1
cHA,bHA,dI,aJE,dJE,cKA,cLA,bLA,dME,cNE,bJE,dO,bPE,cQA,cRE,+1,cSE,bHE,dTE,bHE,dU,bVE,cXE,+1,cY,bZE
+67,yLINEAR A SIGN AB001,b2,b3,b4,b5,b6,b7,b8,b9,c10,b1,b3,b6,b7,c20,b1,aF,bM,c2,aF,bM,c3,aM,c4,b6
b7,b8,e028B,eB029,c30,b1,b4,b7,b8,b9,c40,b1,b4,b5,b6,b7,b8,b9,c50,b1,b3,b4,b5,b6,b7,b8,b9,c60,b1,b5
b6,b7,b9,c70,b3,b4,b6,b7,b8,b9,c80,b1,b2,b5,b6,b7,e100-102,hB118,c20,e120B,eB122,b3,c31A,bB,f131C
eB164,c71,c80,b8,c91,e301,b2,b3,b4,b5,b6,b7,b8,b9A,bB,bC,d10,b1,b2,b3A,bB,bC,c4,b5,b6,b7,b8,b9,c20
b1,b2,b3,b4,b5,b6,b7,b8,b9,c30,b1,b2,b3,b4,b5,b6,b7,b8,b9,c40,b1,b2,b3,b4,b5,b6,b7,b8,b9,c50,b1,b2
b3,b4,b5,b6,b7,b8,b9,c60,b1,b2,b3,b4,b5,b6,b7,b8,b9,c70,b1,d400-VAS,f1-VAS,f2-VAS,f3-VAS,f4-VAS
f5-VAS,f6-VAS,f7-VAS,f8-VAS,f9-VAS,g10-VAS,f1-VAS,f2-VAS,f3-VAS,f4-VAS,f5-VAS,f6-VAS,f7-VAS,f8-VAS
h501,b2,b3,b4,b5,b6,b8,b9,c10,b1,b2,b3,b5,b6,c20,b1,b3,b4,b5,b6,b7,b8,b9,c30,b1,b2,b4,b5,b6,b7,b8
b9,c40,b1,b2,b5,b7,b8,b9,c50,b1,b2,b3,b4,b5,b6,b7,b9,c63,b4,b5,b6,b8,b9,c70,b1,b2,b3,b4,b5,b6,b7,b8
b9,c80,b1,b2,b3,b4,b5,b6,b7,b8,b9,c91,b2,b4,b5,b6,b8,d600,b1,b2,b3,b4,b6,b8,b9,c10,b1,b2,b3,b4,b5
b6,b7,b8,b9,c20,b1,b2,b3,b4,b6,b7,b8,b9,c34,b7,b8,c40,b2,b3,b4,b5,b6,b8,b9,c51,b2,b3,b4,b5,b6,b7,b8
b9,c60,b1,b2,b3,b4,+9,d701 A,d2 B,d3 D,d4 E,d5 F,d6 H,d7 J,d8 K,d9 L,c-2 L2,e3 L3,e4 L4,e6 L6,h10 W
d1 X,d2 Y,d3 OMEGA,h4 ABB,f5 BB,e7 DD,f26 EYYY,h32 JE,+10,g800,b1,b2,b3,b4,b5,b6,b7,+24
sMODIFIER LETTER SMALL CAPITAL AA,pUPERSCRIPT TRIANGULAR COLON,qHALF TRIANGULAR COLON,zhMALL AE
cCAPITAL B,jB WITH HOOK,+1,lDZ DIGRAPH,a WITH RETROFLEX HOOK,oCURL,tEZH DIGRAPH,l WITH TAIL,eHOOK
a AND TAIL,uREVERSED E,kCLOSED REVERSED OPEN E,wFENG DIGRAPH,mRAMS HORN,jCAPITAL G,jG WITH HOOK
lCAPITAL G WITH HOOK,tH WITH STROKE,nCAPITAL H,jHENG WITH HOOK,oDOTLESS J WITH STROKE AND HOOK
zfLS DIGRAPH,jZ DIGRAPH,j WITH BELT,lCAPITAL L WITH BELT,tL WITH RETROFLEX HOOK AND BELT,zeEZH
a WITH RETROFLEX HOOK,yTURNED Y,a WITH BELT,sO WITH STROKE,nCAPITAL OE,jLOSED OMEGA,mQ
bTURNED R WITH LONG LEG,a AND RETROFLEX HOOK,zqR WITH TAIL,eFISHHOOK,pCAPITAL R
jTC DIGRAPH WITH CURL,tS DIGRAPH,a WITH RETROFLEX HOOK,zeESH DIGRAPH,l WITH RETROFLEX HOOK
vV WITH RIGHT HOOK,+1,rCAPITAL Y,pGLOTTAL STOP WITH STROKE,yREVERSED GLOTTAL STOP WITH STROKE
ziBILABIAL CLICK,oDENTAL CLICK,mLATERAL CLICK,nALVEOLAR CLICK,oRETROFLEX CLICK WITH RETROFLEX HOOK
zkSMALL S WITH CURL,+69,ziCYPRIOT SYLLABLE A,bE,bI,bO,bU,bJA,+2,bO,+1,cKA,bE,bI,bO,bU,cLA,bE,bI,bO
bU,cMA,bE,bI,bO,bU,cNA,bE,bI,bO,bU,cPA,bE,bI,bO,bU,cRA,bE,bI,bO,bU,cSA,bE,bI,bO,bU,cTA,bE,bI,bO,bU
cWA,bE,bI,bO,+1,cXA,bE,+3,cZA,+2,bO,tIMPERIAL ARAMAIC LETTER ALEPH,fBETH,eGIMEL,fDALETH,gHE,cWAW
dZAYIN,fHETH,eTETH,eYODH,eKAPH,eLAMEDH,gMEM,dNUN,dSAMEKH,gAYIN,ePE,cSADHE,fQOPH,eRESH,eSHIN,eTAW,+1
kSECTION SIGN,mNUMBER ONE,dTWO,cHREE,eEN,cWENTY,gONE HUNDRED,hTHOUSAND,mTEN THOUSAND
zlPALMYRENE LETTER ALEPH,fBETH,eGIMEL,fDALETH,gHE,cWAW,dZAYIN,fHETH,eTETH,eYODH,eKAPH,eLAMEDH,gMEM
dFINAL NUN,jNUN,dSAMEKH,gAYIN,ePE,cSADHE,fQOPH,eRESH,eSHIN,eTAW,iFT-POINTING FLEURON
vRIGHT-POINTING FLEURON,wNUMBER ONE,dTWO,cHREE,fFOUR,dIVE,eTEN,cWENTY,xNABATAEAN LETTER FINAL ALEPH
lALEPH,fFINAL BETH,kBETH,eGIMEL,fDALETH,gFINAL HE,iHE,cWAW,dZAYIN,fHETH,eTETH,eFINAL YODH,kYODH
eFINAL KAPH,kKAPH,eFINAL LAMEDH,mLAMEDH,gFINAL MEM,jMEM,dFINAL NUN,jNUN,dSAMEKH,gAYIN,ePE,cSADHE
fQOPH,eRESH,eFINAL SHIN,kSHIN,eTAW,+8,kNUMBER ONE,dTWO,cHREE,fFOUR,lCRUCIFORM NUMBER FOUR
vNUMBER FIVE,eTEN,cWENTY,gONE HUNDRED,+48,zdHATRAN LETTER ALEPH,fBETH,eGIMEL,fDALETH-RESH,lHE,cWAW
dZAYN,eHETH,eTETH,eYODH,eKAPH,eLAMEDH,gMEM,dNUN,dSAMEKH,gAYN,dPE,cSADHE,fQOPH,+1,eSHIN,eTAW,+5
kNUMBER ONE,dFIVE,eTEN,cWENTY,gONE HUNDRED,zaPHOENICIAN LETTER ALF,dBET,dGAML,eDELT,eHE,cWAU,dZAI
dHET,dTET,dYOD,dKAF,dLAMD,eMEM,dNUN,dSEMK,eAIN,dPE,cSADE,eQOF,dROSH,eSHIN,eTAU,kNUMBER ONE,dTEN
cWENTY,gONE HUNDRED,lTWO,cHREE,+3,mWORD SEPARATOR,zaLYDIAN LETTER A,bB,bG,bD,bE,bV,bI,bY,bK,bL,bM
bN,bO,bR,bSS,cT,bU,bF,bQ,bS,bTT,cAN,cEN,cLY,cNN,cC,+5,iTRIANGULAR MARK,+64
wMEROITIC HIEROGLYPHIC LETTER A,bE,bI,bO,bYA,cWA,cBA,a-2,ePA,cMA,cNA,a-2,dE,a-2,eRA,a-2,eLA,cKHA
dHHA,dSA,a-2,dE,cKA,cQA,cTA,a-2,dE,a-2,dO,cDA,jSYMBOL VIDJ,a-2,zbCURSIVE LETTER A,bE,bI,bO,bYA,cWA
cBA,cPA,cMA,cNA,bE,cRA,cLA,cKHA,dHHA,dSA,cARCHAIC SA,kSE,cKA,cQA,cTA,bE,bO,cDA,+4
jFRACTION ELEVEN TWELFTHS,pONE HALF,rLOGOGRAM RMT,dIMN,mNUMBER ONE,dTWO,cHREE,fFOUR,dIVE,eSIX,cEVEN
fEIGHT,fNINE,eTEN,cWENTY,fHIRTY,gFORTY,eIFTY,fSIXTY,eEVENTY,+2,hONE HUNDRED,lTWO HUNDRED
kHREE HUNDRED,nFOUR HUNDRED,lIVE HUNDRED,mSIX HUNDRED,kEVEN HUNDRED,nEIGHT HUNDRED,nNINE HUNDRED
mONE THOUSAND,mTWO THOUSAND,lHREE THOUSAND,oFOUR THOUSAND,mIVE THOUSAND,nSIX THOUSAND
lEVEN THOUSAND,oEIGHT THOUSAND,oNINE THOUSAND,nTEN THOUSAND,lWENTY THOUSAND,oHIRTY THOUSAND
pFORTY THOUSAND,nIFTY THOUSAND,oSIXTY THOUSAND,nEVENTY THOUSAND,qEIGHTY THOUSAND,pNINETY THOUSAND
pONE HUNDRED THOUSAND,uTWO HUNDRED THOUSAND,tHREE HUNDRED THOUSAND,wFOUR HUNDRED THOUSAND
uIVE HUNDRED THOUSAND,vSIX HUNDRED THOUSAND,tEVEN HUNDRED THOUSAND,wEIGHT HUNDRED THOUSAND
wNINE HUNDRED THOUSAND,zdFRACTION ONE TWELFTH,lTWO TWELFTHS,lHREE TWELFTHS,oFOUR TWELFTHS
mIVE TWELFTHS,nSIX TWELFTHS,lEVEN TWELFTHS,oEIGHT TWELFTHS,oNINE TWELFTHS,nTEN TWELFTHS
znKHAROSHTHI LETTER A,iVOWEL SIGN I,bU,bVOCALIC R,+1,jE,bO,+5,gLENGTH MARK,rSIGN DOUBLE RING BELOW
rANUSVARA,iVISARGA,mLETTER KA,bHA,dGA,bHA,+1,dCA,bHA,dJA,+1,cNYA,dTTA,bHA,eDDA,bHA,eNNA,dTA,bHA,dDA
bHA,dNA,cPA,bHA,dBA,bHA,dMA,cYA,cRA,cLA,cVA,cSHA,cSA,cA,cZA,cHA,cKKA,dTTTHA,cA,eVHA,+2
kSIGN BAR ABOVE,jCAUDA,fDOT BELOW,+4,oVIRAMA,gDIGIT ONE,dTWO,cHREE,fFOUR,kNUMBER TEN,cWENTY
gONE HUNDRED,hTHOUSAND,tFRACTION ONE HALF,+7,rPUNCTUATION DOT,dSMALL CIRCLE,mCIRCLE,fRESCENT BAR
mMANGALAM,iLOTUS,fDANDA,eOUBLE DANDA,mLINES,+7,zdOLD SOUTH ARABIAN LETTER HE,cLAMEDH,gHETH,eMEM
dQOPH,eWAW,dSHIN,eRESH,eBETH,eTAW,dSAT,dKAPH,eNUN,dKHETH,fSADHE,dMEKH,gFE,cALEF,dYN,dDHADHE,gGIMEL
fDALETH,gGHAYN,fTETH,eZAYN,eDHALETH,hYODH,eTHAW,cETH,mNUMBER ONE,dFIFTY,jERIC INDICATOR
zgNORTH ARABIAN LETTER HEH,dLAM,dHAH,dMEEM,eQAF,dWAW,dES-2,eREH,dBEH,dTEH,dES-1,eKAF,dNOON,eKHAH
eSAD,dES-3,eFEH,dALEF,dIN,dDAD,dGEEM,eDAL,dGHAIN,fTAH,dZAIN,eTHAL,eYEH,dTHEH,eZAH,kNUMBER ONE,dTEN
cWENTY,+32,zgMANICHAEAN LETTER ALEPH,fBETH,dHETH,fGIMEL,eHIMEL,gDALETH,gHE,cWAW,kSIGN UD
hLETTER ZAYIN,eHAYIN,gJAYIN,eHAYIN,gHETH,eTETH,eYODH,eKAPH,eXAPH,eKHAPH,fLAMEDH,gDHAMEDH,hTHAMEDH
hMEM,dNUN,dSAMEKH,gAYIN,dAYIN,fPE,cFE,cSADHE,fQOPH,eXOPH,eQHOPH,fRESH,eSHIN,dSHIN,fTAW
kABBREVIATION MARK ABOVE,fBELOW,+4,xNUMBER ONE,dFIVE,eTEN,cWENTY,gONE HUNDRED,sPUNCTUATION STAR
eFLEURON,hDOUBLE DOT WITHIN DOT,tT WITHIN DOT,l,dTWO DOTS,iLINE FILLER,+9,zjAVESTAN LETTER A,aA,bO
bAO,cN,bAN,cE,aE,dE,aE,cO,aO,cI,aI,cU,aU,cKE,cXE,bYE,cVE,dGE,bGE,cHE,dCE,cJE,cTE,bHE,dDE,bHE,dTTE
dPE,cFE,cBE,bHE,dNGE,bYE,cVE,dE,bYE,cNE,dME,cHME,dYYE,cE,cVE,cRE,cLE,cSE,cZE,cSHE,dZHE,dSHYE,dSHE
eHE,+3,jABBREVIATION MARK,zaTINY TWO DOTS OVER ONE DOT PUNCTUATION
znSMALL TWO DOTS OVER ONE DOT PUNCTUATION,zoLARGE TWO DOTS OVER ONE DOT PUNCTUATION
ziONE DOT OVER TWO DOTS PUNCTUATION,ziTWO RINGS OVER ONE RING PUNCTUATION
zkONE RING OVER TWO RINGS PUNCTUATION,zqINSCRIPTIONAL PARTHIAN LETTER ALEPH,fBETH,eGIMEL,fDALETH
gHE,cWAW,dZAYIN,fHETH,eTETH,eYODH,eKAPH,eLAMEDH,gMEM,dNUN,dSAMEKH,gAYIN,ePE,cSADHE,fQOPH,eRESH
eSHIN,eTAW,+2,kNUMBER ONE,dTWO,cHREE,fFOUR,eTEN,cWENTY,gONE HUNDRED,hTHOUSAND,zbHLAVI LETTER ALEPH
fBETH,eGIMEL,fDALETH,gHE,cWAW-AYIN-RESH,nZAYIN,fHETH,eTETH,eYODH,eKAPH,eLAMEDH,gMEM-QOPH,iNUN
dSAMEKH,gPE,cSADHE,eHIN,eTAW,+5,kNUMBER ONE,dTWO,cHREE,fFOUR,eTEN,cWENTY,gONE HUNDRED,hTHOUSAND
zqPSALTER PAHLAVI LETTER ALEPH,fBETH,eGIMEL,fDALETH,gHE,cWAW-AYIN-RESH,nZAYIN,fHETH,eYODH,eKAPH
eLAMEDH,gMEM-QOPH,iNUN,dSAMEKH,gPE,cSADHE,eHIN,eTAW,+7,kSECTION MARK,mTURNED SECTION MARK
tFOUR DOTS WITH CROSS,fDOT,+12,sNUMBER ONE,dTWO,cHREE,fFOUR,eTEN,cWENTY,gONE HUNDRED,+80
zjOLD TURKIC LETTER ORKHON A,iYENISEI A,aE,kORKHON I,iYENISEI I,bE,jORKHON O,aE,jYENISEI OE
kORKHON AB,jYENISEI AB,kORKHON AEB,kYENISEI AEB,lORKHON AG,jYENISEI AG,kORKHON AEG,kYENISEI AEG
lORKHON AD,jYENISEI AD,kORKHON AED,dEZ,jYENISEI EZ,kORKHON AY,jYENISEI AY,kORKHON AEY,kYENISEI AEY
lORKHON AEK,kYENISEI AEK,lORKHON OEK,kYENISEI OEK,lORKHON AL,jYENISEI AL,kORKHON AEL,dELT,cM,cAN
bEN,kYENISEI AEN,lORKHON ENT,kYENISEI ENT,lORKHON ENC,kYENISEI ENC,lORKHON ENY,kYENISEI ENY,dANG
lORKHON ENG,kYENISEI AENG,mORKHON EP,cOP,cIC,cEC,jYENISEI EC,kORKHON AQ,jYENISEI AQ,kORKHON IQ
jYENISEI IQ,kORKHON OQ,jYENISEI OQ,kORKHON AR,jYENISEI AR,kORKHON AER,cS,bES,cSH,kYENISEI ASH
lORKHON ESH,kYENISEI ESH,lORKHON AT,jYENISEI AT,kORKHON AET,kYENISEI AET,lORKHON OT,cBASH,+55
zaHUNGARIAN CAPITAL LETTER A,aA,cEB,cAMB,dEC,bNC,cCS,cD,cAND,dE,bCLOSE E,hEE,bF,bG,aY,cH,cI,aI,cEJ
bK,cAK,cUNK,dEL,aY,cM,bN,aY,dO,aO,cNIKOLSBURG OE,nRUDIMENTA OE,mOEE,dEP,bMP,cR,cSHORT ER,iES,aZ,cT
bNT,cTY,cCH,dU,aU,cNIKOLSBURG UE,nRUDIMENTA UE,mEV,bZ,aS,cNT-SHAPED SIGN,pUS,+13,rSMALL LETTER A,aA
cEB,cAMB,dEC,bNC,cCS,cD,cAND,dE,bCLOSE E,hEE,bF,bG,aY,cH,cI,aI,cEJ,bK,cAK,cUNK,dEL,aY,cM,bN,aY,dO
aO,cNIKOLSBURG OE,nRUDIMENTA OE,mOEE,dEP,bMP,cR,cSHORT ER,iES,aZ,cT,bNT,cTY,cCH,dU,aU
cNIKOLSBURG UE,nRUDIMENTA UE,mEV,bZ,aS,cNT-SHAPED SIGN,pUS,+7,pNUMBER ONE,dFIVE,eTEN,dFIFTY
fONE HUNDRED,hTHOUSAND,ziHANIFI ROHINGYA LETTER A,bBA,cPA,cTA,bTA,dJA,cCA,cHA,cKHA,dFA,cDA,bDA,dRA
bRA,dZA,cSA,bHA,dKA,cGA,cLA,cMA,cNA,cWA,cKINNA WA,iYA,cKINNA YA,iNGA,cYA,dVA,jVOWEL A,bI,bU,bE,bO
hMARK SAKIN,fNA KHONNA,oSIGN HARBAHAY,iTAHALA,eNA,cSSI,+8,kDIGIT ZERO,eONE,dTWO,cHREE,fFOUR,dIVE
eSIX,cEVEN,fEIGHT,fNINE,+294,zbRUMI DIGIT ONE,dTWO,cHREE,fFOUR,dIVE,eSIX,cEVEN,fEIGHT,fNINE
kNUMBER TEN,cWENTY,fHIRTY,gFORTY,eIFTY,fSIXTY,eEVENTY,hEIGHTY,gNINETY,gONE HUNDRED,lTWO HUNDRED
kHREE HUNDRED,nFOUR HUNDRED,lIVE HUNDRED,mSIX HUNDRED,kEVEN HUNDRED,nEIGHT HUNDRED,nNINE HUNDRED
tFRACTION ONE HALF,eQUARTER,hTHIRD,jTWO THIRDS,+1,yYEZIDI LETTER ELIF,eBE,cPE,bHE,dTHE,dSE,cCIM
cHIM,cHIM,fHHA,dXA,cDAL,dZAL,dRA,bHA,dZA,cJA,cSIN,cHIN,dAD,dDAD,dTA,cZE,cEYN,dXHEYN,fFA,cVA
a ALTERNATE FORM,rQAF,dKAF,cHAF,eGAF,dLAM,dMIM,dNUN,dUM,cWAW,dOW,cEW,cHAY,dYOT,dET,+1
jCOMBINING HAMZA MARK,kMADDA MARK,uHYPHENATION MARK,+2,qLETTER LAM WITH DOT ABOVE
sYOT WITH CIRCUMFLEX ABOVE,+78,zoOLD SOGDIAN LETTER ALEPH,fFINAL ALEPH,lBETH,eFINAL BETH,kGIMEL,fHE
cFINAL HE,iWAW,dZAYIN,fHETH,eYODH,eKAPH,eLAMEDH,gMEM,dNUN,dFINAL NUN,a WITH VERTICAL TAIL,zdSAMEKH
gAYIN,dLTERNATE AYIN,oPE,cSADHE,fFINAL SADHE,a WITH VERTICAL TAIL,zfRESH-AYIN-DALETH,qSHIN,eTAW
dFINAL TAW,a WITH VERTICAL TAIL,zkNUMBER ONE,dTWO,cHREE,fFOUR,dIVE,eTEN,cWENTY,fHIRTY,gONE HUNDRED
sFRACTION ONE HALF,rLIGATURE AYIN-DALETH,+8,zhSOGDIAN LETTER ALEPH,fBETH,eGIMEL,fHE,cWAW,dZAYIN
fHETH,eYODH,eKAPH,eLAMEDH,gMEM,dNUN,dSAMEKH,gAYIN,ePE,cSADHE,fRESH-AYIN,jSHIN,eTAW,dFETH,eLESH
lINDEPENDENT SHIN,qCOMBINING DOT BELOW,jTWO DOTS BELOW,oDOT ABOVE,jTWO DOTS ABOVE,oCURVE ABOVE
fBELOW,lHOOK ABOVE,fBELOW,kLONG HOOK BELOW,pRESH BELOW,kSTROKE BELOW,wNUMBER ONE,dTEN,cWENTY
gONE HUNDRED,sPUNCTUATION TWO VERTICAL BARS,a WITH DOTS,zcCIRCLE WITH DOT,pTWO CIRCLES WITH DOTS
vHALF CIRCLE WITH DOT,+22,zpOLD UYGHUR LETTER ALEPH,fBETH,eGIMEL-HETH,kWAW,dZAYIN,fFINAL HETH,kYODH
eKAPH,eLAMEDH,gMEM,dNUN,dSAMEKH,gPE,cSADHE,fRESH,eSHIN,eTAW,dLESH,lCOMBINING DOT ABOVE,fBELOW
jTWO DOTS ABOVE,fBELOW,yPUNCTUATION BAR,dTWO BARS,eDOTS,iFOUR DOTS,+38,zhCHORASMIAN LETTER ALEPH
fSMALL ALEPH,lBETH,eGIMEL,fDALETH,gHE,cWAW,dCURLED WAW,kZAYIN,fHETH,eYODH,eKAPH,eLAMEDH,gMEM,dNUN
dSAMEKH,gAYIN,ePE,cRESH,eSHIN,eTAW,kNUMBER ONE,dTWO,cHREE,fFOUR,eTEN,cWENTY,gONE HUNDRED,+20
zeELYMAIC LETTER ALEPH,fBETH,eGIMEL,fDALETH,gHE,cWAW,dZAYIN,fHETH,eTETH,eYODH,eKAPH,eLAMEDH,gMEM
dNUN,dSAMEKH,gAYIN,ePE,cSADHE,fQOPH,eRESH,eSHIN,eTAW,jIGATURE ZAYIN-YODH,+9
zcBRAHMI SIGN CANDRABINDU,lANUSVARA,iVISARGA,hJIHVAMULIYA,lUPADHMANIYA,qLETTER A,aA,cI,aI,cU,aU
cVOCALIC R,aR,cL,aL,kE,bAI,cO,bAU,cKA,bHA,dGA,bHA,dNGA,dCA,bHA,dJA,bHA,dNYA,dTTA,bHA,eDDA,bHA,eNNA
dTA,bHA,dDA,bHA,dNA,cPA,bHA,dBA,bHA,dMA,cYA,cRA,cLA,cVA,cSHA,cSA,cA,cHA,cLLA,dOLD TAMIL LLLA,eRRA
dNNNA,vVOWEL SIGN AA,cBHATTIPROLU AA,oI,aI,cU,aU,cVOCALIC R,aR,cL,aL,kE,bAI,cO,bAU,mIRAMA,gDANDA
eOUBLE DANDA,mPUNCTUATION DOT,bUBLE DOT,kLINE,eCRESCENT BAR,mLOTUS,+4,rNUMBER ONE,dTWO,cHREE,fFOUR
dIVE,eSIX,cEVEN,fEIGHT,fNINE,eTEN,cWENTY,fHIRTY,gFORTY,eIFTY,fSIXTY,eEVENTY,hEIGHTY,gNINETY
gONE HUNDRED,hTHOUSAND,tDIGIT ZERO,eONE,dTWO,cHREE,fFOUR,dIVE,eSIX,cEVEN,fEIGHT,fNINE
kSIGN OLD TAMIL VIRAMA,vLETTER OLD TAMIL SHORT E,bO,yVOWEL SIGN OLD TAMIL SHORT E,bO
zdLETTER OLD TAMIL LLA,+9,uNUMBER JOINER,uKAITHI SIGN CANDRABINDU,lANUSVARA,iVISARGA,mLETTER A,aA
cI,aI,cU,aU,cE,bAI,cO,bAU,cKA,bHA,dGA,bHA,dNGA,dCA,bHA,dJA,bHA,dNYA,dTTA,bHA,eDDA,bDHA,dHA,eRHA
dNNA,dTA,bHA,dDA,bHA,dNA,cPA,bHA,dBA,bHA,dMA,cYA,cRA,cLA,cVA,cSHA,cSA,cA,cHA,jVOWEL SIGN AA,cI,aI
cU,aU,cE,bAI,cO,bAU,nSIGN VIRAMA,gNUKTA,kABBREVIATION SIGN,rENUMERATION SIGN,qNUMBER SIGN
lSECTION MARK,mDOUBLE SECTION MARK,sANDA,eOUBLE DANDA,mVOWEL SIGN VOCALIC R,+10,uNUMBER SIGN ABOVE
+2,ySORA SOMPENG LETTER SAH,dTAH,dBAH,dCAH,dDAH,dGAH,dMAH,dNGAH,eLAH,dNAH,dVAH,dPAH,dYAH,dRAH,dHAH
dKAH,dJAH,dNYAH,eAH,cEEH,dIH,cUH,cOH,cEH,cMAE,+7,kDIGIT ZERO,eONE,dTWO,cHREE,fFOUR,dIVE,eSIX,cEVEN
fEIGHT,fNINE,+6,xCHAKMA SIGN CANDRABINDU,lANUSVARA,iVISARGA,mLETTER AA,cI,bU,bE,bKAA,cHAA,eGAA,cHAA
eNGAA,eCAA,cHAA,eJAA,cHAA,eNYAA,eTTAA,cHAA,fDDAA,cHAA,fNNAA,eTAA,cHAA,eDAA,cHAA,eNAA,dPAA,cHAA,eBAA
cHAA,eMAA,dYYAA,dAA,dRAA,dLAA,dWAA,dSAA,dHAA,kVOWEL SIGN A,bI,aI,cU,aU,cE,bAI,cO,bAU,cOI,nO MARK
gAU MARK,hVIRAMA,gMAAYYAA,+1,hDIGIT ZERO,eONE,dTWO,cHREE,fFOUR,dIVE,eSIX,cEVEN,fEIGHT,fNINE
kSECTION MARK,mDANDA,eOUBLE DANDA,mQUESTION MARK,nLETTER LHAA,lVOWEL SIGN AA,cEI,nLETTER VAA,+8
rMAHAJANI LETTER A,bI,bU,bE,bO,bKA,bHA,dGA,bHA,dCA,bHA,dJA,bHA,dNYA,dTTA,bHA,eDDA,bHA,eNNA,dTA,bHA
dDA,bHA,dNA,cPA,bHA,dBA,bHA,dMA,cRA,cLA,cVA,cSA,cHA,cRRA,kSIGN NUKTA,kABBREVIATION SIGN
rSECTION MARK,mLIGATURE SHRI,+9,wSHARADA SIGN CANDRABINDU,lANUSVARA,iVISARGA,mLETTER A,aA,cI,aI,cU
aU,cVOCALIC R,aR,cL,aL,kE,bAI,cO,bAU,cKA,bHA,dGA,bHA,dNGA,dCA,bHA,dJA,bHA,dNYA,dTTA,bHA,eDDA,bHA
eNNA,dTA,bHA,dDA,bHA,dNA,cPA,bHA,dBA,bHA,dMA,cYA,cRA,cLA,bLA,dVA,cSHA,cSA,cA,cHA,jVOWEL SIGN AA,cI
aI,cU,aU,cVOCALIC R,aR,cL,aL,kE,bAI,cO,bAU,nSIGN VIRAMA,gAVAGRAHA,iJIHVAMULIYA,lUPADHMANIYA,qOM
cDANDA,eOUBLE DANDA,mABBREVIATION SIGN,rSEPARATOR,iANDHI MARK,kIGN NUKTA,kVOWEL MODIFIER MARK
tEXTRA SHORT VOWEL MARK,wSUTRA MARK,kVOWEL SIGN PRISHTHAMATRA E,zbSIGN INVERTED CANDRABINDU
zaDIGIT ZERO,eONE,dTWO,cHREE,fFOUR,dIVE,eSIX,cEVEN,fEIGHT,fNINE,kEKAM,eSIGN SIDDHAM,mHEADSTROKE
kCONTINUATION SIGN,rSECTION MARK-1,b2,+1,vINHALA ARCHAIC DIGIT ONE,dTWO,cHREE,fFOUR,dIVE,eSIX,cEVEN
fEIGHT,fNINE,kNUMBER TEN,cWENTY,fHIRTY,gFORTY,eIFTY,fSIXTY,eEVENTY,hEIGHTY,gNINETY,gONE HUNDRED
hTHOUSAND,+11,zkKHOJKI LETTER A,aA,cI,bU,bE,bAI,cO,bAU,cKA,bHA,dGA,bGA,cHA,dNGA,dCA,bHA,dJA,bJA,+1
dNYA,dTTA,bHA,eDDA,bHA,eNNA,dTA,bHA,dDA,bDDA,dHA,dNA,cPA,bHA,dBA,bBA,cHA,dMA,cYA,cRA,cLA,cVA,cSA
cHA,cLLA,kVOWEL SIGN AA,cI,aI,cU,bE,bAI,cO,bAU,nSIGN ANUSVARA,iVIRAMA,gNUKTA,fSHADDA,lDANDA
eOUBLE DANDA,mWORD SEPARATOR,oSECTION MARK,mDOUBLE SECTION MARK,tABBREVIATION SIGN,rSIGN SUKUN,+65
rMULTANI LETTER A,bI,bU,bE,bKA,bHA,dGA,+1,bHA,+1,dCA,bHA,dJA,bJA,+1,dNYA,dTTA,bHA,eDDA,bDA,cHA,eNNA
dTA,bHA,dDA,bHA,dNA,cPA,bHA,dBA,+1,bHA,dMA,cYA,cRA,cLA,cVA,cSA,cHA,cRRA,cHA,kSECTION MARK,+6
uKHUDAWADI LETTER A,aA,cI,aI,cU,aU,cE,bAI,cO,bAU,cKA,bHA,dGA,bGA,cHA,dNGA,dCA,bHA,dJA,bJA,cHA,dNYA
dTTA,bHA,eDDA,bDA,eRRA,dDDHA,eNNA,dTA,bHA,dDA,bHA,dNA,cPA,bHA,dBA,bBA,cHA,dMA,cYA,cRA,cLA,cVA,cSHA
cA,cHA,jSIGN ANUSVARA,nVOWEL SIGN AA,cI,aI,cU,aU,cE,bAI,cO,bAU,nSIGN NUKTA,fVIRAMA,+5,lDIGIT ZERO
eONE,dTWO,cHREE,fFOUR,dIVE,eSIX,cEVEN,fEIGHT,fNINE,+6,uGRANTHA SIGN COMBINING ANUSVARA ABOVE
xANDRABINDU,lANUSVARA,iVISARGA,+1,mLETTER A,aA,cI,aI,cU,aU,cVOCALIC R,bL,+2,jEE,cAI,+2,cOO,cAU,cKA
bHA,dGA,bHA,dNGA,dCA,bHA,dJA,bHA,dNYA,dTTA,bHA,eDDA,bHA,eNNA,dTA,bHA,dDA,bHA,dNA,+1,cPA,bHA,dBA,bHA
dMA,cYA,cRA,+1,cLA,bLA,+1,dVA,cSHA,cSA,cA,cHA,+1,rCOMBINING BINDU BELOW,vGRANTHA SIGN NUKTA
fAVAGRAHA,nVOWEL SIGN AA,cI,aI,cU,aU,cVOCALIC R,aR,+2,kEE,cAI,+2,cOO,cAU,nSIGN VIRAMA,+2,lOM,+6
cAU LENGTH MARK,+5,oSIGN PLUTA,kLETTER VEDIC ANUSVARA,iDOUBLE ANUSVARA,uOCALIC RR,cLL
rVOWEL SIGN VOCALIC L,aL,+2,zeCOMBINING GRANTHA DIGIT ZERO,eONE,dTWO,cHREE,fFOUR,dIVE,eSIX,+3
jLETTER A,bKA,cNA,cVI,cPA,+139,zcNEWA LETTER A,aA,cI,aI,cU,aU,cVOCALIC R,aR,cL,aL,kE,bAI,cO,bAU,cKA
bHA,dGA,bHA,dNGA,bHA,eCA,bHA,dJA,bHA,dNYA,bHA,eTTA,bHA,eDDA,bHA,eNNA,dTA,bHA,dDA,bHA,dNA,bHA,dPA
bHA,dBA,bHA,dMA,bHA,dYA,cRA,bHA,dLA,bHA,dWA,cSHA,cSA,cA,cHA,jVOWEL SIGN AA,cI,aI,cU,aU,cVOCALIC R
aR,cL,aL,kE,bAI,cO,bAU,nSIGN VIRAMA,gCANDRABINDU,lANUSVARA,iVISARGA,hNUKTA,fAVAGRAHA
iFINAL ANUSVARA,tOM,cSIDDHI,gDANDA,eOUBLE DANDA,mCOMMA,fGAP FILLER,kABBREVIATION SIGN,rDIGIT ZERO
eONE,dTWO,cHREE,fFOUR,dIVE,eSIX,cEVEN,fEIGHT,fNINE,jOUBLE COMMA,mPLACEHOLDER MARK,+1
qINSERTION SIGN,oSANDHI MARK,lLETTER VEDIC ANUSVARA,vSIGN JIHVAMULIYA,lUPADHMANIYA,+30
vTIRHUTA ANJI,eLETTER A,aA,cI,aI,cU,aU,cVOCALIC R,aR,cL,aL,kE,bAI,cO,bAU,cKA,bHA,dGA,bHA,dNGA,dCA
bHA,dJA,bHA,dNYA,dTTA,bHA,eDDA,bHA,eNNA,dTA,bHA,dDA,bHA,dNA,cPA,bHA,dBA,bHA,dMA,cYA,cRA,cLA,cVA
cSHA,cSA,cA,cHA,jVOWEL SIGN AA,cI,aI,cU,aU,cVOCALIC R,aR,cL,aL,kE,bSHORT E,hAI,cO,bSHORT O,hAU
nSIGN CANDRABINDU,lANUSVARA,iVISARGA,fRAMA,gNUKTA,fAVAGRAHA,nGVANG,fABBREVIATION SIGN,rOM,+8
cDIGIT ZERO,eONE,dTWO,cHREE,fFOUR,dIVE,eSIX,cEVEN,fEIGHT,fNINE,+166,sSIDDHAM LETTER A,aA,cI,aI,cU
aU,cVOCALIC R,aR,cL,aL,kE,bAI,cO,bAU,cKA,bHA,dGA,bHA,dNGA,dCA,bHA,dJA,bHA,dNYA,dTTA,bHA,eDDA,bHA
eNNA,dTA,bHA,dDA,bHA,dNA,cPA,bHA,dBA,bHA,dMA,cYA,cRA,cLA,cVA,cSHA,cSA,cA,cHA,jVOWEL SIGN AA,cI,aI
cU,aU,cVOCALIC R,aR,+2,kE,bAI,cO,bAU,nSIGN CANDRABINDU,lANUSVARA,iVISARGA,fRAMA,gNUKTA,fSIDDHAM
mDANDA,eOUBLE DANDA,mSEPARATOR DOT,dBAR,nREPETITION MARK-1,b2,b3,rEND OF TEXT MARK
qSECTION MARK WITH TRIDENT AND U-SHAPED ORNAMENTS,sDOTTED CRESCENTS,zdRAYS AND DOTTED CRESCENTS
jDOUBLE CRESCENTS,qTRIPLE CRESCENTS,zmDOUBLE RING,a WITH RAYS,vWITH DOUBLE CRESCENTS
qTRIPLE CRESCENTS,qQUADRUPLE CRESCENTS,tSEPTUPLE CRESCENTS,sCIRCLES AND RAYS,eTWO ENCLOSURES
oFOUR ENCLOSURES,zuLETTER THREE-CIRCLE ALTERNATE I,xWO-CIRCLE ALTERNATE I,aI,xALTERNATE U
sVOWEL SIGN ALTERNATE U,aU,+34,zgMODI LETTER A,aA,cI,aI,cU,aU,cVOCALIC R,aR,cL,aL,kE,bAI,cO,bAU,cKA
bHA,dGA,bHA,dNGA,dCA,bHA,dJA,bHA,dNYA,dTTA,bHA,eDDA,bHA,eNNA,dTA,bHA,dDA,bHA,dNA,cPA,bHA,dBA,bHA
dMA,cYA,cRA,cLA,cVA,cSHA,cSA,cA,cHA,cLLA,kVOWEL SIGN AA,cI,aI,cU,aU,cVOCALIC R,aR,cL,aL,kE,bAI,cO
bAU,nSIGN ANUSVARA,iVISARGA,fRAMA,gARDHACANDRA,qDANDA,eOUBLE DANDA,mABBREVIATION SIGN,rSIGN HUVA
+11,jDIGIT ZERO,eONE,dTWO,cHREE,fFOUR,dIVE,eSIX,cEVEN,fEIGHT,fNINE,+6,nNGOLIAN BIRGA WITH ORNAMENT
tROTATED BIRGA,nDOUBLE BIRGA WITH ORNAMENT,zbTRIPLE BIRGA WITH ORNAMENT
zbBIRGA WITH DOUBLE ORNAMENT,zbROTATED BIRGA WITH ORNAMENT,iDOUBLE ORNAMENT,zjINVERTED BIRGA
a WITH DOUBLE ORNAMENT,zkSWIRL BIRGA,a WITH ORNAMENT,iDOUBLE ORNAMENT
zhTURNED SWIRL BIRGA WITH DOUBLE ORNAMENT,+19,zyTAKRI LETTER A,aA,cI,aI,cU,aU,cE,bAI,cO,bAU,cKA,bHA
dGA,bHA,dNGA,dCA,bHA,dJA,bHA,dNYA,dTTA,bHA,eDDA,bHA,eNNA,dTA,bHA,dDA,bHA,dNA,cPA,bHA,dBA,bHA,dMA
cYA,cRA,cLA,cVA,cSHA,cA,cHA,cRRA,kSIGN ANUSVARA,iVISARGA,mVOWEL SIGN AA,cI,aI,cU,aU,cE,bAI,cO,bAU
nSIGN VIRAMA,gNUKTA,kLETTER ARCHAIC KHA,sABBREVIATION SIGN,+6,rDIGIT ZERO,eONE,dTWO,cHREE,fFOUR
dIVE,eSIX,cEVEN,fEIGHT,fNINE,+54,qAHOM LETTER KA,bHA,dNGA,cA,cTA,cALTERNATE TA,mPA,bHA,dBA,cMA,cJA
cCHA,dTHA,dRA,cLA,cSA,cNYA,dHA,cA,bDA,bHA,dGA,cALTERNATE GA,mGHA,dBHA,dJHA,dALTERNATE BA,+2
tCONSONANT SIGN MEDIAL LA,cRA,cLIGATING RA,ziVOWEL SIGN A,aA,cI,aI,cU,aU,cE,bAW,cO,bAI,bM
nSIGN KILLER,+4,lDIGIT ZERO,eONE,dTWO,cHREE,fFOUR,dIVE,eSIX,cEVEN,fEIGHT,fNINE,kNUMBER TEN,cWENTY
nSIGN SMALL SECTION,mECTION,hRULAI,jYMBOL VI,jLETTER CA,cTTA,bHA,eDDA,bHA,eNNA,dLLA,+185
pDOGRA LETTER A,aA,cI,aI,cU,aU,cE,bAI,cO,bAU,cKA,bHA,dGA,bHA,dNGA,dCA,bHA,dJA,bHA,dNYA,dTTA,bHA
eDDA,bHA,eNNA,dTA,bHA,dDA,bHA,dNA,cPA,bHA,dBA,bHA,dMA,cYA,cRA,cLA,cVA,cSHA,cSA,cA,cHA,cRRA
kVOWEL SIGN AA,cI,aI,cU,aU,cVOCALIC R,aR,kE,bAI,cO,bAU,nSIGN ANUSVARA,iVISARGA,fRAMA,gNUKTA
kABBREVIATION SIGN,+100,xWARANG CITI CAPITAL LETTER NGAA,eA,bWI,cYU,bA,bO,cII,cUU,cE,bO,bANG,dGA
cKO,cENY,dYUJ,dUC,cENN,dODD,dTTE,dNUNG,eDA,cAT,bM,cBU,cPU,cHIYO,dOLO,cRR,dAR,dSSUU,dII,dVIYO
tSMALL LETTER NGAA,eA,bWI,cYU,bA,bO,cII,cUU,cE,bO,bANG,dGA,cKO,cENY,dYUJ,dUC,cENN,dODD,dTTE,dNUNG
eDA,cAT,bM,cBU,cPU,cHIYO,dOLO,cRR,dAR,dSSUU,dII,dVIYO,rDIGIT ZERO,eONE,dTWO,cHREE,fFOUR,dIVE,eSIX
cEVEN,fEIGHT,fNINE,kNUMBER TEN,cWENTY,fHIRTY,gFORTY,eIFTY,fSIXTY,eEVENTY,hEIGHTY,gNINETY,+12,nOM
oDIVES AKURU LETTER A,aA,cI,aI,cU,aU,cE,+2,bO,+2,bKA,bHA,dGA,bHA,dNGA,dCA,bHA,dJA,+1,cNYA,dTTA,+1
dDDA,bHA,eNNA,dTA,bHA,dDA,bHA,dNA,cPA,bHA,dBA,bHA,dMA,cYA,bYA,dRA,cLA,cVA,cSHA,cSA,cA,cHA,cLLA,dZA
jVOWEL SIGN AA,cI,aI,cU,aU,cE,+1,bAI,cO,+2,mSIGN ANUSVARA,iCANDRABINDU,lHALANTA,mVIRAMA
gPREFIXED NASAL SIGN,tMEDIAL YA,jINITIAL RA,kMEDIAL RA,jSIGN NUKTA,kDOUBLE DANDA,mGAP FILLER
kEND OF TEXT MARK,+9,qDIGIT ZERO,eONE,dTWO,cHREE,fFOUR,dIVE,eSIX,cEVEN,fEIGHT,fNINE,+70
wNANDINAGARI LETTER A,aA,cI,aI,cU,aU,cVOCALIC R,aR,+2,kE,bAI,cO,bAU,cKA,bHA,dGA,bHA,dNGA,dCA,bHA
dJA,bHA,dNYA,dTTA,bHA,eDDA,bHA,eNNA,dTA,bHA,dDA,bHA,dNA,cPA,bHA,dBA,bHA,dMA,cYA,cRA,cLA,cVA,cSHA
cSA,cA,cHA,cLLA,dRRA,kVOWEL SIGN AA,cI,aI,cU,aU,cVOCALIC R,aR,+2,kE,bAI,cO,bAU,nSIGN ANUSVARA
iVISARGA,fRAMA,gAVAGRAHA,iSIDDHAM,mHEADSTROKE,kVOWEL SIGN PRISHTHAMATRA E,+27
znZANABAZAR SQUARE LETTER A,iVOWEL SIGN I,bUE,b,bE,bOE,b,bAI,bU,cREVERSED I,pLENGTH MARK,rLETTER KA
bHA,dGA,bHA,dNGA,dCA,bHA,dJA,cNYA,dTTA,bHA,eDDA,bHA,eNNA,dTA,bHA,dDA,bHA,dNA,cPA,bHA,dBA,bHA,dMA
cTSA,bHA,eDZA,bHA,eZHA,cA,c-A,cYA,cRA,cLA,cVA,cSHA,cSA,cA,cHA,cKSSA,lFINAL CONSONANT MARK
uSIGN VIRAMA,gCANDRABINDU,a WITH ORNAMENT,t WITH ORNAMENT,uANUSVARA,iVISARGA
mCLUSTER-INITIAL LETTER RA,rFINAL LETTER YA,cRA,cLA,cVA,xINITIAL HEAD MARK,rCLOSING HEAD MARK
rMARK TSHEG,fSHAD,eDOUBLE SHAD,lLONG TSHEG,pINITIAL DOUBLE-LINED HEAD MARK
zfCLOSING DOUBLE-LINED HEAD MARK,zfSUBJOINER,+8,zbSOYOMBO LETTER A,iVOWEL SIGN I,bUE,b,bE,bO,aE,cAI
bU,cVOCALIC R,bL,oLENGTH MARK,rLETTER KA,bHA,dGA,bHA,dNGA,dCA,bHA,dJA,bHA,dNYA,dTTA,bHA,eDDA,bHA
eNNA,dTA,bHA,dDA,bHA,dNA,cPA,bHA,dBA,bHA,dMA,cTSA,bHA,eDZA,dZHA,cA,c-A,cYA,cRA,cLA,cVA,cSHA,cSA,cA
cHA,cKSSA,lSIGN JIHVAMULIYA,lUPADHMANIYA,qCLUSTER-INITIAL LETTER RA,cLA,cSHA,cA
zaFINAL CONSONANT SIGN G,bK,bNG,cD,bN,bB,bM,bR,bL,bSH,b,b-A,xSIGN ANUSVARA,iVISARGA
mGEMINATION MARK,pSUBJOINER,jMARK TSHEG,fSHAD,eDOUBLE SHAD,lPLUTA
kHEAD MARK WITH MOON AND SUN AND TRIPLE FLAME,mFLAME,k,zcTERMINAL MARK-1,b2,+13
xCANADIAN SYLLABICS NATTILIK HI,aI,cO,aO,cA,aA,dSHRI,aI,cO,aO,cA,aA,oSPE,bI,bO,bA
wPAU CIN HAU LETTER PA,cKA,cLA,cMA,cDA,cZA,cVA,cNGA,dHA,cGA,cKHA,dSA,cBA,cCA,cTA,bHA,dNA,cPHA,dRA
cFA,cCHA,dA,bE,bI,bO,bU,aA,cIA,cFINAL P,bK,bT,bM,bN,bL,bW,bNG,cY,oRISING TONE LONG,f
lSANDHI GLOTTAL STOP,tRISING TONE LONG FINAL,kFINAL,rSANDHI GLOTTAL STOP FINAL,sTONE LONG,f
a LONG FINAL,kFINAL,rMID-LEVEL TONE,oGLOTTAL STOP VARIANT,uMID-LEVEL TONE LONG FINAL,kFINAL
uLOW-FALLING TONE LONG,f,qGLOTTAL STOP,mLOW-FALLING TONE LONG FINAL,kFINAL,wGLOTTAL STOP FINAL,+263
zfBHAIKSUKI LETTER A,aA,cI,aI,cU,aU,cVOCALIC R,aR,cL,+1,jE,bAI,cO,bAU,cKA,bHA,dGA,bHA,dNGA,dCA,bHA
dJA,bHA,dNYA,dTTA,bHA,eDDA,bHA,eNNA,dTA,bHA,dDA,bHA,dNA,cPA,bHA,dBA,bHA,dMA,cYA,cRA,cLA,cVA,cSHA
cSA,cA,cHA,jVOWEL SIGN AA,cI,aI,cU,aU,cVOCALIC R,aR,cL,+1,jE,bAI,cO,bAU,nSIGN CANDRABINDU,lANUSVARA
iVISARGA,fRAMA,gAVAGRAHA,nDANDA,eOUBLE DANDA,mWORD SEPARATOR,oGAP FILLER-1,b2,+10,mDIGIT ZERO,eONE
dTWO,cHREE,fFOUR,dIVE,eSIX,cEVEN,fEIGHT,fNINE,kNUMBER ONE,dTWO,cHREE,fFOUR,dIVE,eSIX,cEVEN,fEIGHT
fNINE,eTEN,cWENTY,fHIRTY,gFORTY,eIFTY,fSIXTY,eEVENTY,hEIGHTY,gNINETY,nHUNDREDS UNIT MARK,+3
zdMARCHEN HEAD MARK,jMARK SHAD,jLETTER KA,bHA,dGA,cNGA,dCA,bHA,dJA,cNYA,dTA,bHA,dDA,cNA,cPA,bHA,dBA
cMA,cTSA,bHA,eDZA,dWA,cZHA,cA,c-A,cYA,cRA,cLA,cSHA,cA,cHA,cA,+2,iSUBJOINED LETTER KA,bHA,dGA,cNGA
dCA,bHA,dJA,cNYA,dTA,bHA,dDA,cNA,cPA,bHA,dBA,cMA,cTSA,bHA,eDZA,dWA,cZHA,cA,+1,cYA,cRA,cLA,cSHA,cA
cHA,cA,sVOWEL SIGN AA,cI,bU,bE,bO,mSIGN ANUSVARA,iCANDRABINDU,+73,wSARAM GONDI LETTER A,aA,cI,aI,cU
aU,cE,+1,bAI,cO,+1,bAU,cKA,bHA,dGA,bHA,dNGA,dCA,bHA,dJA,bHA,dNYA,dTTA,bHA,eDDA,bHA,eNNA,dTA,bHA,dDA
bHA,dNA,cPA,bHA,dBA,bHA,dMA,cYA,cRA,cLA,cVA,cSHA,cSA,cA,cHA,cLLA,dKSSA,eJNYA,eTRA,kVOWEL SIGN AA,cI
aI,cU,aU,cVOCALIC R,+3,jE,+1,bAI,cO,+1,bAU,nSIGN ANUSVARA,iVISARGA,hNUKTA,fCANDRA,gHALANTA,mVIRAMA
gREPHA,eA-KARA,+8,hDIGIT ZERO,eONE,dTWO,cHREE,fFOUR,dIVE,eSIX,cEVEN,fEIGHT,fNINE,+6
yGUNJALA GONDI LETTER A,aA,cI,aI,cU,aU,+1,cEE,cAI,+1,cOO,cAU,cYA,cVA,cBA,bHA,dMA,cKA,bHA,dTA,bHA
dLA,cGA,bHA,dDA,bHA,dNA,cCA,bHA,dTTA,bHA,eLLA,dJA,bHA,dDDA,bHA,eNGA,dPA,bHA,dHA,cRA,cSA
jVOWEL SIGN AA,cI,aI,cU,aU,+1,cEE,cAI,+1,cOO,cAU,nSIGN ANUSVARA,iVISARGA,mVIRAMA,gOM,+7,cDIGIT ZERO
eONE,dTWO,cHREE,fFOUR,dIVE,eSIX,cEVEN,fEIGHT,fNINE,+310,yMAKASAR LETTER KA,cGA,cNGA,dPA,cBA,cMA,cTA
cDA,cNA,cCA,cJA,cNYA,dYA,cRA,cLA,cVA,cSA,cA,iANGKA,fVOWEL SIGN I,bU,bE,bO,mPASSIMBANG
kEND OF SECTION,+183,wLISU LETTER YHA,+15,pTAMIL FRACTION ONE THREE-HUNDRED-AND-TWENTIETH
zcONE-HUNDRED-AND-SIXTIETH,yEIGHTIETH,jSIXTY-FOURTH,mFORTIETH,iTHIRTY-SECOND,rTHREE EIGHTIETHS
kSIXTY-FOURTHS,tONE TWENTIETH,jSIXTEENTH-1,b2,lTENTH,fEIGHTH,kTHREE TWENTIETHS,kSIXTEENTHS
qONE FIFTH,fQUARTER,hHALF-1,b2,kTHREE QUARTERS,oDOWNSCALING FACTOR KIIZH,ziSIGN NEL,dCEVITU
gAAZHAAKKU,jUZHAKKU,hMUUVUZHAKKU,lKURUNI,gPATHAKKU,iMUKKURUNI,jKAACU,fPANAM,eON,dVARAAKAN,iPAARAM
gKUZHI,fVELI,jWET CULTIVATION SIGN,uDRY CULTIVATION SIGN,uLAND SIGN,jSALT PAN SIGN
nTRADITIONAL CREDIT SIGN,lNUMBER SIGN,xCURRENT SIGN,mAND ODD SIGN,mSPENT SIGN,kTOTAL SIGN
kIN POSSESSION SIGN,sSTARTING FROM SIGN,rIGN MUTHALIYA,jVAKAIYARAA,+13,pPUNCTUATION END OF TEXT"

end SchemaDoc.Text.Names
