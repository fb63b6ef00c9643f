/-
SchemaDoc.Text.Names.From14000 — the names of the characters from U+14000 on.

The block holds hieroglyphs of Anatolia and further scripts.
How it is written is said where it is read.
-/

namespace SchemaDoc.Text.Names

/-- The names from U+14000 on. -/
def from14000 : String :=
  "+1024,aANATOLIAN HIEROGLYPH A001,b2,b3,b4,b5,b6,b7,b8,b9,c10,aA,c1,b2,b3,b4,b5,b6,b7,b8,b9,c20
b1,b2,b3,b4,b5,b6,aA,c7,b8,b9,c30,b1,b2,b3,b4,b5,b6,b7,b8,b9,aA,d40,b1,aA,c2,b3,b4,b5,aA,c6,aA,bB
c7,b8,b9,c50,b1,b2,b3,b4,b5,b6,b7,b8,b9,c60,b1,b2,b3,b4,b5,b6,aA,bB,bC,c7,b8,b9,c70,b1,b2,b3,b4,b5
b6,b7,b8,b9,c80,b1,b2,b3,b4,b5,b6,b7,b8,b9,c90,b1,b2,b3,b4,b5,b6,b7,aA,c8,aA,c9,d100,aA,c1,aA,c2,aA
c3,b4,aA,bB,bC,c5,aA,bB,c6,b7,aA,bB,bC,c8,b9,c10,aA,bB,c1,b2,b3,b4,b5,aA,c6,b7,b8,b9,c20,b1,b2,b3
b4,b5,aA,c6,b7,b8,b9,c30,b1,b2,b3,b4,b5,aA,c6,b7,b8,b9,c40,b1,b2,b3,b4,b5,b6,b7,b8,b9,c50,b1,b2,b3
b4,b5,b6,b7,b8,b9,c60,b1,b2,b3,b4,b5,b6,b7,b8,b9,c70,b1,b2,b3,b4,b5,b6,b7,b8,b9,c80,b1,b2,b3,b4,b5
b6,b7,b8,b9,c90,b1,b2,b3,b4,b5,b6,b7,b8,b9,d200,b1,b2,aA,bB,c3,b4,b5,b6,b7,aA,c8,b9,aA,d10,b1,b2,b3
b4,b5,aA,c6,aA,c7,b8,b9,c20,b1,b2,b3,b4,b5,b6,b7,aA,c8,b9,c30,b1,b2,b3,b4,b5,b6,b7,b8,b9,c40,b1,b2
b3,b4,b5,b6,b7,b8,b9,c50,b1,b2,b3,b4,b5,b6,b7,b8,b9,c60,b1,b2,b3,b4,b5,b6,b7,aA,c8,b9,c70,b1,b2,b3
b4,b5,b6,b7,b8,b9,c80,b1,b2,b3,b4,b5,b6,b7,b8,b9,aA,d90,b1,b2,b3,b4,aA,c5,b6,b7,b8,b9,aA,e300,b1,b2
b3,b4,b5,b6,b7,b8,b9,aA,d10,b1,b2,b3,b4,b5,b6,b7,b8,b9,c20,b1,b2,b3,b4,b5,b6,b7,b8,b9,aA,d30,b1,b2A
bB,bC,c3,b4,b5,b6,aA,bB,bC,c7,b8,b9,c40,b1,b2,b3,b4,b5,b6,b7,b8,b9,c50,b1,b2,b3,b4,b5,b6,b7,b8,b9
aA,d60,b1,b2,b3,b4,aA,c5,b6,b7,b8,aA,c9,c70,b1,aA,c2,b3,b4,b5,b6,b7,b8,b9,c80,b1,aA,c2,b3 RA OR RI
jA,c4,b5,b6,aA,c7,b8,b9,c90,b1,b2,b3 EIGHT,h4,b5,b6,b7,b8,b9,d400,b1,b2,b3,b4,b5,b6,b7,b8,b9
c10 BEGIN LOGOGRAM MARK,uA END LOGOGRAM MARK,u1,b2,b3,b4,b5,b6,b7,b8,b9,c20,b1,b2,b3,b4,b5,b6,b7,b8
b9,c30,b1,b2,b3,b4,b5,b6,b7,b8,b9,c40,b1,b2,b3,b4,b5,b6,b7,b8,b9,c50,aA,c1,b2,b3,b4,b5,b6,b7,aA,c8
b9,c60,b1,b2,b3,b4,b5,b6,b7,b8,b9,c70,b1,b2,b3,b4,b5,b6,b7,b8,b9,c80,b1,b2,b3,b4,b5,b6,b7,b8,b9,c90
b1,b2,b3,b4,b5,b6,b7,d501,b2,b3,b4,b5,b6,b7,b8,b9,c10,b1,b2,b3,b4,b5,b6,b7,b8,b9,c20,b1,b2,b3,b4,b5
b6,b7,b8,b9,c30,+8633,zaBAMUM LETTER PHASE-A NGKUE MFON,kGBIEE FON,jPON MFON PIPAEMGBIEE,fBA
rNAA MFON,iSHUENSHUET,kTITA MFON,jNZA MFON,iSHINDA PA NJI,nPON PA NJI PIPAEMGBIEE,fBA,tMAEMBGBIEE
kTU MAEMBA,jNGANGU,gMAEMVEUX,gNSUAE,gVEUAENGAM,kSEUNYAM,hNTOQPEN,hKEUKEUTNDA,kNKINDI,gSUU
dNGKUENZEUM,kLAPAQ,eET KUT,hNTAP MFAA,jMAEKEUP,hPASHAE,gGHEUAERAE,jPAMSHAE,hMON NGGEUAET,mNZUN MEUT
jU YUQ NAE,jGHEUAEGHEUAE,mNTAP NTAA,jSISA,eMGBASA,fEUNJOMNDEUQ,lOOMPUQ,hKAFA,ePA LEERAEWA
lNDA LEERAEWA,mPET,dMAEMKPEN,iNIKA,ePUP,dTUAEP,fLUAEP,fSONJAM,gTEUTEUWEN,jMAENYI,gKET,dNDAANGGEUAET
mKUOQ,eMOOMEUT,hSHUM,eLOMMAE,gFIRI,eROM,dKPOQ,eSOQ,dMAP PIEET,jSHIRAE,gNTAP,eSHOQ NSHUT YUM
oNYIT MONGKEUAEQ,pPAARAE,gNKAARAE,hUNKNOWN,hNGGEN,fMAESI,fNJAM,eMBANYI,gNYET,eTEUAEN,gSOT,dPAAM
eNSHIEE,gMAEM,eNYI,dKAQ,dNSHA,eVEE,dLU,cNEN,cAQ,dMBAQ,gB NSHUET,gTU MAEMGBIEE,mSIEE,dET TU
gLOM NTEUM,jMBA MAELEE,kKIEEM,fYEURAE,gMBAARAE,hKAM,dPEESHI,gYAFU LEERAEWA,nLAM NSHUT NYAM
oNTIEE SHEUOQ,lDU NJAA,iGHEUGHEUAEM,lPIT,dTU NSIEE,iSHET NJAQ,gUAEQTU,jMFON TEUAEQ,kBIT MBAAKET
mNYI NTEUM,jKEUPUQ,gGHEUGHEN,iKEUYEUX,hLAANAE,gPARUM,fVEUM,eNGKINDI MVOP,kGEU MBU,jWUAET,fSAKEUAE
hTAAM,eMEUQ,eNGGUOQ,a LARGE,mMFIYAQ,gSUE,dMBEURI,fONTIEEN,iNYAEMAE,hPUNGAAM,hMEUT NGGEET,lFEUX
eMBUOQ,fFEE,dKEUAEM,gMA NJEUAENA,gUQA,iLET,dNGGAAM,fSEN,eMA,cKIQ,dNGOM,gC NGKUE MAEMBA,lZA,dYUM
dWANGKUOQ,iNGGEN,eDEUAEREE,iGKAQ,fGHARAE,gMBEEKEET,iGBAYI,fNYIR MKPARAQ MEUN,qTU MBIT,iMBEUM
fPIRIEEN,hNDOMBU,gMBAA CABBAGE-TREE,rKEUSHEUAEP,kGHAP,eKEUKAQ,gYU MUOMAE,jNZEUM,fMBUE,eNSEUAEN
hMBIT,eYEUQ,eKPARAQ,fAA,dSEUX,eNDIDA,fTAASHAE,hNJUEQ,fTITA YUE,iSUAET,fNGGUAEN NYAM,mVEUX,eNANSANAQ
iMA KEUAERI,kNTAA,dGGUON,gLAP,dMBIRIEEN,hGBASAQ,hNTEUNGBA,iTEUTEUX,hNGGUM,fFUE,dNDEUT,eSA,bHAQ
fBUNG,eVEUAEPEN,iMBERAE,gRU,cNJAEM,fLAM,dTITUAEP,hNSUOT NGOM,jJEEEE,gKET,dNGGU,eMAESI,eBUAEM,gLU
cKUT,dNJAM,dGOM,eWUP,dNGGUEET,gSOM,dTEN,eKUOP NKAARAE,mNSUN,dDAM,eMA NSIEE,iYAA,dNDAP,eSHUEQ,eETFON
gMBI,cAEMBA,fBANYI,gKEUSEUX,hMBEUX,fKEUM,eMBAA PICKET,lYUWOQ,fNJEUX,fMIEE,dUAE,eSHIQ,eKEN LAW
dFATIGUE,lNGAQ,dAQ,dLIQ,dPIN,cEN,dTET,fD MBUO,eWAP,dNJI,dMFON,eNJIEE,fLIEE,eNJEUT,eSHEE,eGGAAMAE
hYAM,eWUAEN,fNGKUN,fSHEE,eNGKAP,fKEUAETMEUN,kTEUT,eSHEUAE,gNJAP,eSUE,dKET,dYAEMMAE,hKUOM,eSAP
dMFEUT,fNDEUX,fMALEERI,gEUT,eSEUAEQ,gYEN,dNJEUAEM,hKEUOT MBUAE,lNGKEURI,hTU,cGHAA,eNGKYEE
gFEUFEUAET,jNDEE,eMGBOFUM,hLEUAEP,gNDON,eMONI,dGBEUN,gPUUT,eMGBIEE,fFO,dLUM,dNSIEEP,gMBAA,eKWAET
fNYET,eTEUAEN,gSOT,dYUWOQ,fKEUM,eRAEM,eTEEEE,fNGKEUAEQ,iMFEUAE,gNSIEET,gKEUP,ePIP,cEUTAE,gNYUE,eLET
dNGGAAM,gMFIEE,fNGGWAEN,hYUOM,ePAP,dYUOP,eNDAM,dTEUM,fSUAE,eKUN,dNGGEUX,eKIEE,gTUOT,eMEUN,eKUQ
dNSUM,eTEUN,eMAENJET,hNGGAP,fLEUM,eNGGUOM,fSHUT,eJUEQ,fGHEUAE,gKU,cREN OLD,hTAE,cOQ,dNYI,dRII
dLEEEE,fMEEEE,e,bSUU,dMU,cSHII,cEUX,fKYEE,eNU,cSHU,dNTEE,ePEE,dNI,cSHOQ,ePUQ,dMVOP,eLOQ,dREN MUCH
iTI,cNTUU,eMBAA SEVEN,kSAQ,dFAA,fE NDAP,eTOON,eMBEUM,fLAP,dVOM,dLOON,ePAA,dSOM,dRAQ,dNSHUOP,fDUN
ePUAE,eTAM,dNGKA,eKPEUX,fWUO,dSEE,dNGGEUAET,iPAAM,eTOO,dKUOP,eLOM,dNSHIEE,fGOP,eMAEM,eNGKEUX,eOQ
dSHUE,fRIMGBA,gNJEUX,fPEEM,eSAA,dNGGURAE,hMGBA,eGHEUX,fNGKEUAEM,hJAEMLI,hMAP,dLOOT,eNGGEEEE,gDIQ
eTAEN NTEUM,kSET,dPUM,dNDAA SOFTNESS,mGGUAESHAE NYAM,pYIEE,eGHEUN,fTUAE,eYEUAE,fPO,cTUMAE,fKEUAE
fSUAEN,fTEUAEQ,gVEUAE,fWEUX,eLAAM,ePU,cTAAQ,eGHAAMAE,hNGEUREUT,iSHEUAEQ,hMGBEN,eBEE,eNZAQ,dKOM
eGBET,eTUM,dKUET,eYAP,dNYI CLEAVER,lYIT,dMFEUQ,fNDIAQ,fPIEEQ,fYUEQ,eLEUAEM,gFUE,dGBEUX,fNGKUP,fKET
dMAE,dNGKAAMI,hGHET,eFA,cNTUM,ePEUT,eYEUM,eNGGEUAE,gYI BETWEEN,kZUQ,ePOON,eMIEE,eFUET,eNAE,dMUAE
eGHEUAE,gFU I,eMVI,dPUAQ,eNGKUM,fKUT,dPIET,eNTAP,eYEUAET,gNGGUP,fPA PEOPLE,jFU CALL,gOM,dNJEE,eA
bTOQ,dO,bI,bLAQ,dPA PLURAL,jTAA,bQ,dNDAA MY HOUSE,nSHIQ,eYEUX,eNGUAE,fYUAEN,eOQ SWIMMING,iCOVER,iUQ
bN,dKEUX,ePEUX,eNJEE EPOCH,kPUE,dWUE,dFEE,dVEE,dLU,cMI,cREUX,dAE,dNGUAET,eA,dSHO,aQ,eFU REMEDY,jNA
cPI,cLOQ,dKO,cMEN,cA,aQ,dTEU,dKI,cMON,dTEN,dFAQ,dGHOM,gF KA,cU,bKU,cEE,cREE,dTAE,dNYI,dLA,cRII,bEE
eMEEEE,fTAA,dNDAA,dJAEM,fM,bSUU,cHII,dI,bEUX,eKYEE,dET,dNUAE,c,bJUAE,fYOQ,dSHU,dYA,cNSHA,ePEUX
eNTEE,eWUE,dPEE,dRU,cNI,cREUX,eKEN,dNGKWAEN,fGA,eSHO,dPUAE,eFOM,dWA,cLI,bOQ,dKO,cMBEN,eREN,dMA,bO
bBAA,eTET,dKPA,dSAMBA,fVUEQ,+7,zaMRO LETTER TA,cNGI,dYO,cMIM,dBA,cDA,cA,bPHI,dKHAI,eHAO,dDAI,dCHU
dKEAAE,fOL,cMAEM,eNIN,dPA,cOO,b,bRO,cSHI,dTHEA,eEA,cWA,cE,bKO,cLAN,b,cHAI,dRI,cTEK,+1,kDIGIT ZERO
eONE,dTWO,cHREE,fFOUR,dIVE,eSIX,cEVEN,fEIGHT,fNINE,+4,jANDA,eOUBLE DANDA,qTANGSA LETTER OZ,bC,bQ,bX
cAZ,bC,bQ,bX,cVZ,bC,bQ,bX,cEZ,bC,bQ,bX,cIZ,bC,bQ,bX,cUZ,bC,bQ,bX,cAWZ,bC,bQ,bX,dUIZ,bC,bQ,bX
dFINAL NG,iLONG UEX,iSHORT UEZ,dAWX,jUEC,bZ,bQ,bX,cIUZ,bC,bQ,bX,eMZ,bC,bQ,bX,cKA,bHA,dGA,cNGA,dSA
cYA,cWA,cPA,cNYA,dPHA,dBA,cMA,cNA,cHA,cLA,cHTA,dTA,cDA,cRA,cNHA,dSHA,dCA,cTSA,dGHA,dHTTA,eTHA,dXA
cFA,cDHA,dCHA,dZA,+1,jDIGIT ZERO,eONE,dTWO,cHREE,fFOUR,dIVE,eSIX,cEVEN,fEIGHT,fNINE,+6
rBASSA VAH LETTER ENNI,eKA,cSE,cFA,cMBE,dYIE,dGAH,dDHII,eKPAH,eJO,cHWAH,eWA,cZO,cGBU,dDO,cCE,cUWU
dTO,cBA,cVU,cYEIN,ePA,cWADDA,fA,bO,aO,cU,bEE,b,bI,+2,iCOMBINING HIGH TONE,jLOW TONE,iMID TONE
iLOW-MID TONE,mHIGH-LOW TONE,xFULL STOP,+10,tPAHAWH HMONG VOWEL KEEB,bV,dIB,bV,cAUB,bV,dUB,bV,cEB
bV,cAIB,bV,dOOB,bV,dAWB,bV,dUAB,bV,dOB,bV,cIAB,bV,dAB,bV,cWB,bV,cAAB,bV,kCONSONANT VAU,dNTSAU,fLAU
dHAU,dNLAU,eRAU,dNKAU,eQHAU,eYAU,dHLAU,eMAU,dCHAU,eNCHAU,fHNAU,ePLHAU,fNTHAU,eAU,dAU,cXAU,dCAU
nMARK CIM TUB,dSO,cKES,cHAV,eSUAM,eHOM,dTAUM,nSIGN VOS THOM,dSHAB CEEB,oCIM CHEEM,jVOS THIAB,fFEEM
iXYEEM NTXIV,fRHO,dTOV,dFAIB,kVOS SEEV,iMEEJ SUAB,jVOS NRUA,iIB YAM,gXAUS,eCIM TSOV ROG,+10
rDIGIT ZERO,eONE,dTWO,cHREE,fFOUR,dIVE,eSIX,cEVEN,fEIGHT,fNINE,+1,kNUMBER TENS,eHUNDREDS
iTEN THOUSANDS,nMILLIONS,iHUNDRED MILLIONS,qTEN BILLIONS,lRILLIONS,+1,qSIGN VOS LUB,hXYOO,eHLI
dTHIRD-STAGE HLI,pZWJ THAJ,iHNUB,eNQIG,eXIAB,eNTUJ,eAV,cTXHEEJ CEEV,lMEEJ TSEEB,kTAU,dLOS,dMUS
dCIM HAIS LUS NTOG NTOG,sCUAM TSHOOJ,lTXWV,a CHWV,jPUB DAWB,iNRES TOS,+5,rCLAN SIGN TSHEEJ,gYEEG
eLIS,cAUJ,eXYOOJ,fKOO,dHAWJ,eMUAS,eTHOJ,dSAB,ePHAB,eKHAB,eHAM,dVAJ,dFAJ,dYAJ,dTSWB,eKWM,dVWJ,+688
zbMEDEFAIDRIN CAPITAL LETTER M,bS,bV,bW,bATIU,eZ,bKP,cP,bT,bG,bF,bI,bK,bA,bJ,bE,bB,bC,bU,bYU,cL,bQ
bHP,cNY,cX,bD,bOE,cN,bR,bO,bAI,cY,qSMALL LETTER M,bS,bV,bW,bATIU,eZ,bKP,cP,bT,bG,bF,bI,bK,bA,bJ,bE
bB,bC,bU,bYU,cL,bQ,bHP,cNY,cX,bD,bOE,cN,bR,bO,bAI,cY,oDIGIT ZERO,eONE,dTWO,cHREE,fFOUR,dIVE,eSIX
cEVEN,fEIGHT,fNINE,kNUMBER TEN,dELEVEN,gTWELVE,fHIRTEEN,iFOURTEEN,hIFTEEN,hSIXTEEN,gEVENTEEN
jEIGHTEEN,iNINETEEN,pDIGIT ONE ALTERNATE FORM,sTWO ALTERNATE FORM,rHREE ALTERNATE FORM,zbCOMMA
fFULL STOP,jSYMBOL AIVA,lEXCLAMATION OH,+101,zaIAO LETTER PA,cBA,cYI PA,fPLA,dMA,bHA,dARCHAIC MA
kFA,cVA,bFA,dTA,cDA,cYI TTA,cA,fTTA,dDDA,dNA,bHA,dYI NNA,gARCHAIC NA,kNNA,bHA,eLA,bYA,cHA,bYA,eTLHA
eDLHA,eTLHYA,fDLHYA,fKA,cGA,cYI KA,fQA,bGA,dNGA,bHA,eARCHAIC NGA,lHA,cXA,cGHA,bHA,eTSSA,eDZZA,eNYA
bHA,eTSHA,eDZHA,eYI TSHA,eDZHA,hREFORMED TSHA,nSHA,cSA,dZHA,cSHA,eTSA,dDZA,dYI TSA,gSA,cZA,bSA,cZA
bSA,eARCHAIC ZZA,lZZYA,cSYA,fWA,cAH,cHHA,dBRI,dSYI,dDZYI,eTE,bSE,dRTE,+4
kSIGN CONSONANT MODIFIER BAR,zcLETTER NASALIZATION,tSIGN ASPIRATION,kREFORMED VOICING,hASPIRATION
yVOWEL SIGN A,aA,bHH,cN,aG,dO,aO,cWO,b,bE,aN,aG,dOEY,dI,aA,aN,aG,dO,bE,bI,bU,bNG,dU,aA,aN,aG,dU,bEI
cNG,dY,aI,cAE,aE,dERR,dROUNDED ERR,lER,cROUNDED ER,kAI,cEI,cAU,cOU,cN,aG,cUOG,dYUI,dOG,bER,dVW,cIG
cEA,cIONG,eUI,+7,nTONE RIGHT,fTOP RIGHT,jABOVE,fBELOW,kLETTER TONE-2,b3,b4,b5,b6,b7,b8
gREFORMED TONE-1,b2,b4,b5,b6,b8,+64,zcTANGUT ITERATION MARK,vNUSHU ITERATION MARK
uOLD CHINESE HOOK MARK,jITERATION MARK,zbKHITAN SMALL SCRIPT FILLER,+11
zbVIETNAMESE ALTERNATE READING MARK CA,cNHAY,+6158,znTANGUT COMPONENT-001,b2,b3,b4,b5,b6,b7,b8,b9
c10,b1,b2,b3,b4,b5,b6,b7,b8,b9,c20,b1,b2,b3,b4,b5,b6,b7,b8,b9,c30,b1,b2,b3,b4,b5,b6,b7,b8,b9,c40,b1
b2,b3,b4,b5,b6,b7,b8,b9,c50,b1,b2,b3,b4,b5,b6,b7,b8,b9,c60,b1,b2,b3,b4,b5,b6,b7,b8,b9,c70,b1,b2,b3
b4,b5,b6,b7,b8,b9,c80,b1,b2,b3,b4,b5,b6,b7,b8,b9,c90,b1,b2,b3,b4,b5,b6,b7,b8,b9,d100,b1,b2,b3,b4,b5
b6,b7,b8,b9,c10,b1,b2,b3,b4,b5,b6,b7,b8,b9,c20,b1,b2,b3,b4,b5,b6,b7,b8,b9,c30,b1,b2,b3,b4,b5,b6,b7
b8,b9,c40,b1,b2,b3,b4,b5,b6,b7,b8,b9,c50,b1,b2,b3,b4,b5,b6,b7,b8,b9,c60,b1,b2,b3,b4,b5,b6,b7,b8,b9
c70,b1,b2,b3,b4,b5,b6,b7,b8,b9,c80,b1,b2,b3,b4,b5,b6,b7,b8,b9,c90,b1,b2,b3,b4,b5,b6,b7,b8,b9,d200
b1,b2,b3,b4,b5,b6,b7,b8,b9,c10,b1,b2,b3,b4,b5,b6,b7,b8,b9,c20,b1,b2,b3,b4,b5,b6,b7,b8,b9,c30,b1,b2
b3,b4,b5,b6,b7,b8,b9,c40,b1,b2,b3,b4,b5,b6,b7,b8,b9,c50,b1,b2,b3,b4,b5,b6,b7,b8,b9,c60,b1,b2,b3,b4
b5,b6,b7,b8,b9,c70,b1,b2,b3,b4,b5,b6,b7,b8,b9,c80,b1,b2,b3,b4,b5,b6,b7,b8,b9,c90,b1,b2,b3,b4,b5,b6
b7,b8,b9,d300,b1,b2,b3,b4,b5,b6,b7,b8,b9,c10,b1,b2,b3,b4,b5,b6,b7,b8,b9,c20,b1,b2,b3,b4,b5,b6,b7,b8
b9,c30,b1,b2,b3,b4,b5,b6,b7,b8,b9,c40,b1,b2,b3,b4,b5,b6,b7,b8,b9,c50,b1,b2,b3,b4,b5,b6,b7,b8,b9,c60
b1,b2,b3,b4,b5,b6,b7,b8,b9,c70,b1,b2,b3,b4,b5,b6,b7,b8,b9,c80,b1,b2,b3,b4,b5,b6,b7,b8,b9,c90,b1,b2
b3,b4,b5,b6,b7,b8,b9,d400,b1,b2,b3,b4,b5,b6,b7,b8,b9,c10,b1,b2,b3,b4,b5,b6,b7,b8,b9,c20,b1,b2,b3,b4
b5,b6,b7,b8,b9,c30,b1,b2,b3,b4,b5,b6,b7,b8,b9,c40,b1,b2,b3,b4,b5,b6,b7,b8,b9,c50,b1,b2,b3,b4,b5,b6
b7,b8,b9,c60,b1,b2,b3,b4,b5,b6,b7,b8,b9,c70,b1,b2,b3,b4,b5,b6,b7,b8,b9,c80,b1,b2,b3,b4,b5,b6,b7,b8
b9,c90,b1,b2,b3,b4,b5,b6,b7,b8,b9,d500,b1,b2,b3,b4,b5,b6,b7,b8,b9,c10,b1,b2,b3,b4,b5,b6,b7,b8,b9
c20,b1,b2,b3,b4,b5,b6,b7,b8,b9,c30,b1,b2,b3,b4,b5,b6,b7,b8,b9,c40,b1,b2,b3,b4,b5,b6,b7,b8,b9,c50,b1
b2,b3,b4,b5,b6,b7,b8,b9,c60,b1,b2,b3,b4,b5,b6,b7,b8,b9,c70,b1,b2,b3,b4,b5,b6,b7,b8,b9,c80,b1,b2,b3
b4,b5,b6,b7,b8,b9,c90,b1,b2,b3,b4,b5,b6,b7,b8,b9,d600,b1,b2,b3,b4,b5,b6,b7,b8,b9,c10,b1,b2,b3,b4,b5
b6,b7,b8,b9,c20,b1,b2,b3,b4,b5,b6,b7,b8,b9,c30,b1,b2,b3,b4,b5,b6,b7,b8,b9,c40,b1,b2,b3,b4,b5,b6,b7
b8,b9,c50,b1,b2,b3,b4,b5,b6,b7,b8,b9,c60,b1,b2,b3,b4,b5,b6,b7,b8,b9,c70,b1,b2,b3,b4,b5,b6,b7,b8,b9
c80,b1,b2,b3,b4,b5,b6,b7,b8,b9,c90,b1,b2,b3,b4,b5,b6,b7,b8,b9,d700,b1,b2,b3,b4,b5,b6,b7,b8,b9,c10
b1,b2,b3,b4,b5,b6,b7,b8,b9,c20,b1,b2,b3,b4,b5,b6,b7,b8,b9,c30,b1,b2,b3,b4,b5,b6,b7,b8,b9,c40,b1,b2
b3,b4,b5,b6,b7,b8,b9,c50,b1,b2,b3,b4,b5,b6,b7,b8,b9,c60,b1,b2,b3,b4,b5,b6,b7,b8,+9456
uKATAKANA LETTER MINNAN TONE-2,b3,b4,b5,+1,b7,b8,gNASALIZED TONE-1,b2,b3,b4,b5,+1,b7,b8,+1
xARCHAIC E,zaHIRAGANA LETTER ARCHAIC YE,zaENTAIGANA LETTER A-1,b2,b3,bWO,eI-1,b2,b3,b4,dU-1,b2,b3
b4,b5,dE-2,b3,b4,b5,b6,dO-1,b2,b3,dKA-1,b2,b3,b4,b5,b6,b7,b8,b9,b10,b1,cKE,eI-1,b2,b3,b4,b5,b6,b7
b8,dU-1,b2,b3,b4,b5,b6,b7,dE-1,b2,b3,b4,b5,b6,dO-1,b2,b3,bKI,fSA-1,b2,b3,b4,b5,b6,b7,b8,dI-1,b2,b3
b4,b5,b6,dU-1,b2,b3,b4,b5,b6,b7,b8,dE-1,b2,b3,b4,b5,dO-1,b2,b3,b4,b5,b6,b7,eTA-1,b2,b3,b4,dI-1,b2
b3,b4,b5,b6,b7,dU-1,b2,b3,b4,bTO,eE-1,b2,b3,b4,b5,b6,b7,b8,b9,dO-1,b2,b3,b4,b5,b6,bRA,fNA-1,b2,b3
b4,b5,b6,b7,b8,b9,dI-1,b2,b3,b4,b5,b6,b7,bTE,eU-1,b2,b3,dE-1,b2,b3,b4,b5,b6,bKO,eO-1,b2,b3,b4,b5
eHA-1,b2,b3,b4,b5,b6,b7,b8,b9,b10,b1,eI-1,b2,b3,b4,b5,b6,b7,dU-1,b2,b3,dE-1,b2,b3,b4,b5,b6,b7,dO-1
b2,b3,b4,b5,b6,b7,b8,eMA-1,b2,b3,b4,b5,b6,b7,dI-1,b2,b3,b4,b5,b6,b7,dU-1,b2,b3,b4,dE-1,b2,bMA,eO-1
b2,b3,b4,b5,b6,eYA-1,b2,b3,b4,b5,bYO,eU-1,b2,b3,b4,dO-1,b2,b3,b4,b5,b6,eRA-1,b2,b3,b4,dI-1,b2,b3,b4
b5,b6,b7,dU-1,b2,b3,b4,b5,b6,dE-1,b2,b3,b4,dO-1,b2,b3,b4,b5,b6,eWA-1,b2,b3,b4,b5,dI-1,b2,b3,b4,b5
dE-1,b2,b3,b4,dO-1,b2,b3,b4,b5,b6,b7,eN-MU-MO-1,b2,zbIRAGANA LETTER ARCHAIC WU
zbKATAKANA LETTER ARCHAIC YI,bE,cWU,+45,zbHIRAGANA LETTER SMALL WI,bE,bO,+17
yKATAKANA LETTER SMALL WI,bE,bO,cN,+2712,xDUPLOYAN LETTER H,bX,bP,bT,bF,bK,bL,bB,bD,bV,bG,bR,bP N
dD S,dF N,dK M,dR S,dTH,cSLOAN DH,iDH,cKK,cSLOAN J,hHL,cLH,cRH,cM,bN,bJ,bS,bM N,dN M,dJ M,dS J
dM WITH DOT,kN WITH DOT,kJ WITH DOT,aS INSIDE AND ABOVE,zdS WITH DOT,a BELOW,qM S,dN S,dJ S,dS S
dM N S,fN M S,fJ M S,fS J S,fJ S WITH DOT,kN,a S,fS T,a R,dP,a R,fT S,bR S,fW,aH,b R,dS N,bM,dK R S
fG R S,fS K,a R,fA,bSLOAN OW,iOA,b,bAOU,dI,bE,bIE,cSHORT I,hUI,cEE,cSLOAN EH,iROMANIAN I,kSLOAN EE
iLONG I,gYE,cU,bEU,cXW,cU N,dLONG U,gROMANIAN U,kUH,cSLOAN U,hOOH,cW,bU,cWA,bO,bI,bEI,cOW,dNASAL U
bO,bI,bA,hPERNIN AN,bM,jSLOAN EN,cAN,cON,iVOCALIC M,+5,qAFFIX LEFT HORIZONTAL SECANT
wMID HORIZONTAL SECANT,vRIGHT HORIZONTAL SECANT,xLOW VERTICAL SECANT,tMID VERTICAL SECANT
tHIGH VERTICAL SECANT,uATTACHED SECANT,gLEFT-TO-RIGHT SECANT,uTANGENT,fIL,eE HOOK,gI HOOK
gTANGENT HOOK,+3,vHIGH ACUTE,fTIGHT ACUTE,lGRAVE,fLONG GRAVE,kDOT,dCIRCLE,gLINE,eWAVE,eVERTICAL,+7
nLOW ACUTE,fTIGHT ACUTE,lGRAVE,fLONG GRAVE,kDOT,dCIRCLE,gLINE,eWAVE,eVERTICAL,iARROW,+2
pSIGN O WITH CROSS,rTHICK LETTER SELECTOR,vDOUBLE MARK,lPUNCTUATION CHINOOK FULL STOP
znSHORTHAND FORMAT LETTER OVERLAP,oCONTINUING OVERLAP,sDOWN STEP,jUP STEP,+4700
yZNAMENNY COMBINING MARK GORAZDO NIZKO S KRYZHEM ON LEFT,zgNIZKO S KRYZHEM ON LEFT,xTSATA ON LEFT
nGORAZDO NIZKO ON LEFT,vNIZKO ON LEFT,nSREDNE ON LEFT,oMALO POVYSHE ON LEFT,uPOVYSHE ON LEFT
pVYSOKO ON LEFT,oMALO POVYSHE S KHOKHLOM ON LEFT,zgPOVYSHE S KHOKHLOM ON LEFT
zbVYSOKO S KHOKHLOM ON LEFT,zaGORAZDO NIZKO S KRYZHEM ON RIGHT,zhNIZKO S KRYZHEM ON RIGHT
yTSATA ON RIGHT,oGORAZDO NIZKO ON RIGHT,wNIZKO ON RIGHT,oSREDNE ON RIGHT,pMALO POVYSHE ON RIGHT
vPOVYSHE ON RIGHT,qVYSOKO ON RIGHT,pMALO POVYSHE S KHOKHLOM ON RIGHT,zhPOVYSHE S KHOKHLOM ON RIGHT
zcVYSOKO S KHOKHLOM ON RIGHT,zbTSATA S KRYZHEM,pMALO POVYSHE S KRYZHEM,wSTRANNO MALO POVYSHE
uPOVYSHE S KRYZHEM,iTRANNO,pVYSOKO S KRYZHEM,qMALO POVYSHE STRANNO,uGORAZDO VYSOKO,oZELO,eON,cRAVNO
fTIKHAYA,hBORZAYA,hUDARKA,gPODVERTKA,jLOMKA,fKUPNAYA,gACHKA,gZEVOK,fSKOBA,fRAZSEKA,hKRYZH ON LEFT
+2,sTONAL RANGE MARK MRACHNO,hSVETLO,gTRESVETLO,zbMARK ZADERZHKA,jDEMESTVENNY ZADERZHKA,vOTSECHKA
iPODCHASHIE,a WITH VERTICAL STROKE,zgCHASHKA,a POLNAYA,pOBLACHKO,iSOROCHYA NOZHKA,pTOCHKA
gDVOETOCHIE,pATTACHING VERTICAL OMET,xMARK CURVED OMET,lKRYZH,kLOWER TONAL RANGE INDICATOR
zmPRIZNAK MODIFIER LEVEL-2,b3,hDIRECTION FLIP,oKRYZH,fROG,+9,uNEUME KRYUK,a TIKHY,lPARAKLIT
iDVA V CHELNU,mKLYUCH,gZANOZHEK,iSTOPITSA,a S OCHKOM,rPEREVODKA,a NEPOSTOYANNAYA
ySTOPITSA WITH SOROCHYA NOZHKA,zeCHELYUSTKA,kPALKA,fZAPYATAYA,jGOLUBCHIK BORZY,fTIKHY,fMRACHNY
hSVETLY,gTRESVETLY,tVRAKHIYA PROSTAYA,iMRACHNAYA,jSVETLAYA,iTRESVETLAYA,lKLYUCHEVAYA PROSTAYA
iMRACHNAYA,jSVETLAYA,iTRESVETLAYA,zhDOUBLE ZAPYATAYA,qREVERSED CHELYUSTKA,tDERBITSA,iKHAMILO
hCHASHKA,hPODCHASHIE,kSKAMEYTSA MRACHNAYA,jSVETLAYA,iTRESVETLAYA,kIKHAYA,rDEMESTVENNY KLYUCH
sSKAMEYTSA KLYUCHEVAYA SVETLAYA,nNEPOSTOYANNAYA,oVAYA TIKHAYA,tDVOECHELNAYA PROSTAYA,iSVETLAYA
iNEPOSTOYANNAYA,oKLYUCHEVAYA,ziLOZHITIE,a S ZAPYATOY,kZAKRYTOE,iS KRYZHEM,tKRYZH,fROG,dFITA,eKOBYLA
gZMEYTSA,hSTATYA,a S ZAPYATOY,iKRYZHEM,hZAPYATOY I KRYZHEM,sKRYZHEM I ZAPYATOY,uZAKRYTAYA
a S ZAPYATOY,uS ROGOM,fDVUMYA ZAPYATYMI,qZAPYATOY I PODCHASHIEM,zgPOLKULIZMY,kSTATYA NEPOSTOYANNAYA
tRELA PROSTAYA,iMRACHNOTIKHAYA,oKRYZHEVAYA,kPOLUPOVODNAYA,lVODNAYA,jNEPOSTOYANNAYA
oKLYUCHEPOVODNAYA,jNEPOSTOYANNAYA,vTIKHAYA PUTNAYA,pDVOECHELNAYA,dOKRYZHEVAYA,kPOVODNAYA
kAYA KLYUCHEVAYA,pOPOVODNAYA KLYUCHEVAYA,zgGROMNAYA WITH SINGLE ZAPYATAYA
zbOPOVODNAYA WITH SINGLE ZAPYATAYA,zhNAYA,eOPOVODNAYA,a WITH DOUBLE ZAPYATAYA,zgKRYZHEVAYA
a POVODNAYA,zhMECHIK,a POVODNY,hKLYUCHEVOY,dPOVODNY,hNEPOSTOYANNY,zbSTRELA TRYASOGLASNAYA
iPOVODNAYA,jSTRELNAYA,wOSOKA,a SVETLAYA,iTRESVETLAYA,lKRYUKOVAYA SVETLAYA,sLYUCHEVAYA SVETLAYA
iNEPOSTOYANNAYA,zhSTRELA KRYUKOVAYA,a POVODNAYA,jGROMNAYA WITH SINGLE ZAPYATAYA
zbOPOVODNAYA WITH SINGLE ZAPYATAYA,zhNAYA,eOPOVODNAYA,a WITH DOUBLE ZAPYATAYA,zgKRYZHEVAYA
a POVODNAYA,zaTRYASKA,zaKUFISMA,hOBLAKO,gDUDA,eNEMKA,fPAUK"

end SchemaDoc.Text.Names
